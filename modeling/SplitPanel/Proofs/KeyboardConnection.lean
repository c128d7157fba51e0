import SplitPanel.Host.Loopback
import SplitPanel.Proofs.Calls
import SplitPanel.Proofs.Responses

/-!
# Connections to a keyboard

Behind such a connection is the master half of a keyboard.  It runs every report that is written,
and everything that is read comes from it: events at any time, and the responses to reports.  These
may be late, get lost, or stop coming for good, and a read or a write may fail.

Whenever the host learns a screen size over such a connection, it is the size of the screen.
-/

namespace SplitPanel.Host

/-- What the master half of a keyboard sends to the host.  To which of the reports a response is,
and in which order the responses come, is left open. -/
inductive IsSent (capacity : ℕ) (geometry : Screen.Geometry) (frame : Frame) : Prop where
  | event {event : TagEvent} (hevent : TagEvent.ofBytes frame.bytes = .ok (some event))
  | response (station : Station capacity) (report : Report) (hrole : station.role = .master)
      (hgeometry : station.screen.geometry = geometry)
      (hresponse : (station.serve (.ofReport report)).2 = some frame)

/-- A connection with the master half of a keyboard behind it. -/
class KeyboardConnection (σ : Type) (capacity : outParam ℕ) extends Connection σ where
  station : σ → Station capacity
  role_station : ∀ connection, (station connection).role = .master
  fits_station : ∀ connection, (station connection).screen.geometry.check capacity = .ok ()
  screen_of_write : ∀ {report connection next}, write report connection = (next, .ok ()) →
    (station next).screen = ((station connection).serve (.ofReport report)).1.screen
  screen_of_failed_write : ∀ {report connection next fault},
    write report connection = (next, .error fault) →
    (station next).screen = (station connection).screen
  screen_of_read : ∀ {wait connection next result}, read wait connection = (next, result) →
    (station next).screen = (station connection).screen
  isSent_of_read : ∀ {wait connection next frame},
    read wait connection = (next, .ok (some frame)) →
    IsSent capacity (station connection).screen.geometry frame
  screen_clock : ∀ connection, (station (clock connection).1).screen = (station connection).screen
  screen_pause : ∀ time connection,
    (station (pause time connection)).screen = (station connection).screen

section

variable {capacity : ℕ} {station : Station capacity} {frame : Frame}

/-- The host takes a response for the one to its request only if it is to such a frame, and that
was run. -/
theorem answers_of_verdict? {request : Request} {answer : Frame}
    (hheader : headerSize ≤ frame.length)
    (hverdict : verdict? request (station.run frame).response = some (.ok answer)) :
    frame.commandByte = request.command.toByte ∧ frame.screenByte = request.screen.toByte ∧
      Verdict.ofExcept (station.run frame).outcome = .success := by
  simp only [verdict?, Station.ofBytes_response_run hheader] at hverdict
  split at hverdict
  · next hmatch =>
    refine ⟨hmatch.1, hmatch.2, ?_⟩
    split at hverdict
    · assumption
    · simp at hverdict
  · contradiction

/-- The response to a set-up reports the size of the screen. -/
theorem reportedSize_response (hfits : station.screen.geometry.check capacity = .ok ())
    (hsetUp : (station.run frame).outcome = .ok (.applied .setUp)) :
    Conversation.reportedSize (station.run frame).response =
      .ok (station.screen.geometry.cols, station.screen.geometry.rows) := by
  obtain ⟨hhere, hcommand, -⟩ := (Station.outcome_eq_applied_iff station frame .setUp).mp hsetUp
  obtain ⟨rest, hrest⟩ : ∃ rest, (station.run frame).response.bytes.drop headerSize =
      station.screen.geometry.cols :: station.screen.geometry.rows :: rest := by
    rw [← List.take_append_drop 2 ((station.run frame).response.bytes.drop headerSize),
      Station.payload_response_run_of_setUp hsetUp]
    exact ⟨_, rfl⟩
  have hread : Response.ofBytes (station.run frame).response.bytes = _ :=
    Station.ofBytes_response_run hhere.1
  rw [hrest, hsetUp, Command.ofByte?_eq_some_iff.mp hcommand] at hread
  obtain ⟨hcols, hrows, -⟩ := Screen.Geometry.check_eq_ok_iff.mp hfits
  have hpositive : 0 < station.screen.geometry.cols ∧ 0 < station.screen.geometry.rows :=
    ⟨UInt8.pos_iff_ne_zero.mpr hcols, UInt8.pos_iff_ne_zero.mpr hrows⟩
  simp only [Conversation.reportedSize, hread, Option.bind_some, Response.screenSize?,
    Verdict.ofExcept, and_self, if_true, if_pos hpositive]

end

/-- What the host takes for the response to a set-up reports the size of the screen. -/
theorem IsSent.reportedSize_eq {capacity : ℕ} {geometry : Screen.Geometry} {frame : Frame}
    (hsent : IsSent capacity geometry frame) (hfits : geometry.check capacity = .ok ())
    (hnone : eventOf? frame = none)
    (hverdict : verdict? (.setUp .master) frame = some (.ok frame)) :
    Conversation.reportedSize frame = .ok (geometry.cols, geometry.rows) := by
  cases hsent with
  | event hevent =>
      rw [eventOf?_eq_some_iff.mpr hevent] at hnone
      contradiction
  | response station report hrole hgeometry hresponse =>
      obtain rfl : (station.run (.ofReport report)).response = frame := by
        rw [Station.serve, Station.answer?] at hresponse
        split at hresponse
        · exact Option.some.inj hresponse
        · contradiction
      subst hgeometry
      have hheader : headerSize ≤ (Frame.ofReport report).length := show 4 ≤ 32 by decide
      obtain ⟨hcommand, hscreen, hsuccess⟩ := answers_of_verdict? hheader hverdict
      apply reportedSize_response hfits
      rw [Station.outcome_eq_applied_iff]
      refine ⟨⟨hheader, .inl hscreen⟩, ?_, ?_⟩
      · rw [hcommand, Command.ofByte?_toByte]
        rfl
      · simp

namespace Conversation

variable {σ : Type} {capacity : ℕ} [KeyboardConnection σ capacity]

/-- The screen of the keyboard that a conversation is with. -/
def screen (conversation : Conversation σ) : Screen.Buffers capacity :=
  (KeyboardConnection.station conversation.connection).screen

/-- A conversation that has the size of the screen noted. -/
structure Knows (geometry : Screen.Geometry) (conversation : Conversation σ) : Prop where
  geometry_screen : conversation.screen.geometry = geometry
  noted : conversation.geometry = some (geometry.cols, geometry.rows)

theorem fits_screen (conversation : Conversation σ) :
    conversation.screen.geometry.check capacity = .ok () :=
  KeyboardConnection.fits_station conversation.connection

theorem Step.geometry_screen {conversation next : Conversation σ}
    (hstep : Step conversation next) :
    next.screen.geometry = conversation.screen.geometry := by
  cases hstep with
  | wrote report =>
      rcases hwrite : Connection.write report conversation.connection with ⟨next, fault | _⟩
      · exact congrArg _ (KeyboardConnection.screen_of_failed_write hwrite)
      · exact (congrArg _ (KeyboardConnection.screen_of_write hwrite)).trans
          (Station.geometry_run ..)
  | paused => exact congrArg _ (KeyboardConnection.screen_pause ..)
  | waited hwaited =>
      cases hwaited with
      | clocked => exact congrArg _ (KeyboardConnection.screen_clock _)
      | missed hread _ => exact congrArg _ (KeyboardConnection.screen_of_read hread)
      | heard hread => exact congrArg _ (KeyboardConnection.screen_of_read hread)

theorem Steps.geometry_screen {conversation next : Conversation σ}
    (hsteps : Steps conversation next) :
    next.screen.geometry = conversation.screen.geometry :=
  hsteps.keep (P := fun later => later.screen.geometry = conversation.screen.geometry)
    (fun _ _ hstep hearlier => hstep.geometry_screen.trans hearlier) rfl

/-- A size that is learned is noted, and it is the size of the screen. -/
theorem knows_learnSize {conversation : Conversation σ} {size : UInt8 × UInt8}
    (hlearned : conversation.learnSize.2 = .ok size) :
    Knows conversation.screen.geometry conversation.learnSize.1 := by
  rcases conversation.learnSize_cases with
    ⟨fault, hfailed⟩ | ⟨frame, reported, hrequest, hreported, hnoted⟩
  · rw [hfailed] at hlearned
    contradiction
  · obtain ⟨hnone, hverdict, earlier, wait, last, hsteps, hread⟩ := request_eq_ok hrequest
    have hsize := (KeyboardConnection.isSent_of_read hread).reportedSize_eq earlier.fits_screen
      hnone hverdict
    rw [hreported, Except.ok.injEq] at hsize
    rw [hnoted]
    refine ⟨(steps_request ..).geometry_screen, ?_⟩
    rw [hsize, ← hsteps.geometry_screen]
    rfl

section

variable {geometry : Screen.Geometry} {conversation : Conversation σ}

theorem Knows.step {next : Conversation σ} (hknows : Knows geometry conversation)
    (hstep : Step conversation next) : Knows geometry next where
  geometry_screen := hstep.geometry_screen.trans hknows.geometry_screen
  noted := by
    cases hstep with
    | wrote | paused => exact hknows.noted
    | waited hwaited => cases hwaited <;> exact hknows.noted

theorem Knows.learnSize (hknows : Knows geometry conversation) :
    Knows geometry conversation.learnSize.1 := by
  rcases conversation.learnSize_cases with ⟨fault, hlearned⟩ | ⟨_, _, -, -, hlearned⟩
  · rw [hlearned]
    exact (steps_request ..).keep (fun _ _ hstep hearlier => hearlier.step hstep) hknows
  · rw [← hknows.geometry_screen]
    exact knows_learnSize (congrArg Prod.snd hlearned)

/-- Whatever is asked later, the size that is noted stays that of the screen. -/
theorem Knows.callAll (hknows : Knows geometry conversation) (calls : List Call) :
    Knows geometry (conversation.callAll calls).1 :=
  call_keeps (fun _ _ hstep hearlier => hearlier.step hstep)
    (fun _ hearlier => hearlier.learnSize)
    (fun _ _ hearlier => ⟨hearlier.geometry_screen, hearlier.noted⟩) hknows calls

end

end Conversation

/-! ## A loopback as a keyboard -/

namespace Loopback

variable {capacity : ℕ}

theorem master_serveLink (board : Loopback capacity) :
    board.serveLink.master.role = board.master.role ∧
      board.serveLink.master.screen = board.master.screen := by
  rw [serveLink, Link.takeOutgoing]
  split
  · exact ⟨rfl, rfl⟩
  · next htaken =>
    rw [Prod.mk.injEq] at htaken
    obtain ⟨rfl, -⟩ := htaken
    exact ⟨rfl, rfl⟩

/-- What a report makes of a loopback before the link is served. -/
def serveHost (report : Report) (board : Loopback capacity) : Loopback capacity :=
  let (master, response) := board.master.serve (.ofReport report)
  { board with
    master
    reads := board.reads ++ board.beforeReply ++ if board.muted then [] else response.toList
    beforeReply := [] }

theorem write_eq (report : Report) (board : Loopback capacity) :
    board.write report =
      if board.autoLink then (board.serveHost report).serveLink else board.serveHost report :=
  rfl

theorem screen_write (report : Report) (board : Loopback capacity) :
    (board.write report).master.screen = (board.master.serve (.ofReport report)).1.screen := by
  rw [write_eq]
  split
  · exact (master_serveLink _).2
  · rfl

/-- A loopback with a master half in front, from which nothing is read but what that sends. -/
structure Genuine (board : Loopback capacity) : Prop where
  role_master : board.master.role = .master
  fits_master : board.master.screen.geometry.check capacity = .ok ()
  isSent_beforeReply : ∀ frame ∈ board.beforeReply,
    IsSent capacity board.master.screen.geometry frame
  isSent_reads : ∀ frame ∈ board.reads, IsSent capacity board.master.screen.geometry frame

theorem Genuine.serveLink {board : Loopback capacity} (hgenuine : board.Genuine) :
    board.serveLink.Genuine := by
  obtain ⟨hrole, hscreen⟩ := board.master_serveLink
  have hreports : board.serveLink.beforeReply = board.beforeReply ∧
      board.serveLink.reads = board.reads := by
    rw [Loopback.serveLink]
    split <;> exact ⟨rfl, rfl⟩
  constructor
  · exact hrole.trans hgenuine.role_master
  · rw [hscreen]
    exact hgenuine.fits_master
  · rw [hscreen, hreports.1]
    exact hgenuine.isSent_beforeReply
  · rw [hscreen, hreports.2]
    exact hgenuine.isSent_reads

theorem Genuine.serveHost {board : Loopback capacity} (hgenuine : board.Genuine)
    (report : Report) : (board.serveHost report).Genuine := by
  have hgeometry : (board.serveHost report).master.screen.geometry =
      board.master.screen.geometry := Station.geometry_run ..
  constructor
  · exact (Station.role_run ..).trans hgenuine.role_master
  · rw [hgeometry]
    exact hgenuine.fits_master
  · exact List.forall_mem_nil _
  · rw [hgeometry]
    intro frame hmem
    rw [Loopback.serveHost] at hmem
    dsimp only at hmem
    rw [List.mem_append, List.mem_append] at hmem
    rcases hmem with (hread | hbefore) | hresponse
    · exact hgenuine.isSent_reads frame hread
    · exact hgenuine.isSent_beforeReply frame hbefore
    · split at hresponse
      · contradiction
      · rw [Option.mem_toList] at hresponse
        exact .response board.master report hgenuine.role_master rfl hresponse

theorem Genuine.write {board : Loopback capacity} (hgenuine : board.Genuine) (report : Report) :
    (board.write report).Genuine := by
  rw [write_eq]
  split
  · exact (hgenuine.serveHost report).serveLink
  · exact hgenuine.serveHost report

theorem Genuine.read {board : Loopback capacity} (hgenuine : board.Genuine) :
    board.read.1.Genuine := by
  rw [Loopback.read]
  split
  · exact hgenuine
  · next next rest hreads =>
    refine { hgenuine with isSent_reads := fun frame hmem => hgenuine.isSent_reads frame ?_ }
    rw [hreads]
    exact List.mem_cons_of_mem next hmem

theorem Genuine.isSent_read {board : Loopback capacity} (hgenuine : board.Genuine) {frame : Frame}
    (hread : board.read.2 = .ok (some frame)) :
    IsSent capacity board.master.screen.geometry frame := by
  rw [Loopback.read] at hread
  split at hread
  · simp at hread
  · next next rest hreads =>
    obtain rfl : next = frame := by simpa using hread
    apply hgenuine.isSent_reads
    rw [hreads]
    exact List.mem_cons_self

end Loopback

/-- A genuine loopback. -/
structure Keyboard (capacity : ℕ) where
  board : Loopback capacity
  genuine : board.Genuine

instance {capacity : ℕ} : KeyboardConnection (Keyboard capacity) capacity where
  write report keyboard := (⟨keyboard.board.write report, keyboard.genuine.write report⟩, .ok ())
  read _ keyboard := (⟨keyboard.board.read.1, keyboard.genuine.read⟩, keyboard.board.read.2)
  clock keyboard := (keyboard, 0)
  pause _ keyboard := keyboard
  stock _ keyboard := keyboard.board.reads.length
  stock_read_lt _ keyboard frame next _ hread := by
    rw [Prod.mk.injEq] at hread
    obtain ⟨rfl, hframe⟩ := hread
    exact Loopback.length_reads_read_lt (Prod.ext rfl hframe)
  station keyboard := keyboard.board.master
  role_station keyboard := keyboard.genuine.role_master
  fits_station keyboard := keyboard.genuine.fits_master
  screen_of_write hwrite := by
    cases hwrite
    exact Loopback.screen_write ..
  screen_of_failed_write hwrite := by cases hwrite
  screen_of_read {_ keyboard _ _} hread := by
    cases hread
    dsimp only
    rw [Loopback.read]
    split <;> rfl
  isSent_of_read {_ keyboard _ frame} hread :=
    keyboard.genuine.isSent_read (congrArg Prod.snd hread)
  screen_clock _ := rfl
  screen_pause _ _ := rfl

end SplitPanel.Host

import SplitPanel.Proofs.KeyboardConnection
import SplitPanel.Proofs.Recording
import SplitPanel.Proofs.Requests
import SplitPanel.Proofs.ScreenHistory
import SplitPanel.Proofs.WholeGrids

/-!
# Screens behind a connection

Nothing but the reports that were sent changes the screen of a keyboard, and each of them does so
when it is sent.  So at every moment the screen is what the reports sent by then made of it.  A
request for the master's screen makes of it what an edit makes.
-/

namespace SplitPanel

open Screen (Buffers Edit)

variable {capacity : ℕ}

namespace Station

/-- What reports of the host make of a station. -/
def served (reports : List Report) (station : Station capacity) : Station capacity :=
  station.acceptAll (reports.map fun report => .served (.ofReport report))

theorem served_concat (reports : List Report) (last : Report) (station : Station capacity) :
    station.served (reports ++ [last]) = ((station.served reports).serve (.ofReport last)).1 := by
  rw [served, served, List.map_append, acceptAll, List.foldl_append]
  rfl

theorem role_served (reports : List Report) (station : Station capacity) :
    (station.served reports).role = station.role :=
  acceptAll_induction (P := fun next => next.role = station.role)
    (fun next frame hnext => (role_run next frame).trans hnext) rfl _

/-- What a frame makes of the screen does not depend on what waits in the outbox. -/
theorem screen_run_congr {left right : Station capacity} (hrole : left.role = right.role)
    (hscreen : left.screen = right.screen) (frame : Frame) :
    (left.run frame).station.screen = (right.run frame).station.screen := by
  obtain ⟨role, screen, outbox⟩ := left
  obtain ⟨_, _, other⟩ := right
  obtain rfl : role = _ := hrole
  obtain rfl : screen = _ := hscreen
  have heffect : ((Station.mk role screen outbox).effectOf frame).map (·.station.screen) =
      ((Station.mk role screen other).effectOf frame).map (·.station.screen) := by
    rw [effectOf, effectOf]
    cases frame.request with
    | error _ => rfl
    | ok request =>
        dsimp only
        cases Side.ofByte? request.screen with
        | none => rfl
        | some target =>
            dsimp only
            split
            · rfl
            · cases Command.ofByte? request.command with
              | none => rfl
              | some command =>
                  dsimp only
                  cases runOnScreen command request.payload screen <;> rfl
  rw [run, run]
  split
  · rfl
  · cases hleft : (Station.mk role screen outbox).effectOf frame <;>
      cases hright : (Station.mk role screen other).effectOf frame <;>
      simp_all [Except.map]

end Station

namespace Request

/-- What a request does with a screen. -/
def edit : Request → Edit
  | .setUp _ => .setUp
  | .clear _ => .clear
  | .setLine _ line text => .setLine line (arrivingText text)
  | .present _ => .present

theorem station_perform (request : Request) (station : Station capacity) :
    (request.perform station).1 = { station with screen := station.screen.edit request.edit } := by
  cases request with
  | setUp | clear | present => rfl
  | setLine side line text =>
      rw [perform, storeTo, edit, Buffers.edit]
      cases station.screen.composeRow line (arrivingText text) with
      | ok next => rfl
      | error fault => cases fault; rfl

theorem station_serve_toFrame {station : Station capacity} {request : Request}
    (hhere : request.screen = .master ∨ station.role = .slave) :
    (station.serve (.ofReport request.toFrame.report)).1 =
      { station with screen := station.screen.edit request.edit } := by
  rw [← station_perform, ← run_padded_toFrame_eq_perform hhere]
  rfl

/-- Requests for the master's screen are edits of it. -/
theorem screen_served {requests : List Request}
    (hmaster : ∀ request ∈ requests, request.screen = .master) (station : Station capacity) :
    (station.served (requests.map fun request => request.toFrame.report)).screen =
      station.screen.after (requests.map edit) := by
  induction requests using List.reverseRecOn with
  | nil => rfl
  | append_singleton earlier last ih =>
      have hlast := hmaster last List.mem_concat_self
      have hearlier := ih fun request hmem => hmaster request (List.mem_append_left _ hmem)
      rw [List.map_append, List.map_append, List.map_singleton, List.map_singleton,
        Station.served_concat, Buffers.after_concat, station_serve_toFrame (.inl hlast), hearlier]

end Request

namespace Host

open KeyboardConnection (station)

variable {σ : Type} [KeyboardConnection σ capacity]

namespace Recorded

/-- At every moment the screen is what the reports sent by then made of it. -/
structure Faithful (start : Station capacity) (recorded : Recorded σ) : Prop where
  now : (station recorded.connection).screen = (start.served recorded.written).screen
  always : ∀ moment ∈ recorded.moments, ∃ sent, sent <+: recorded.written ∧
    (station moment).screen = (start.served sent).screen

variable {start : Station capacity} {recorded : Recorded σ}

theorem faithful_nil (connection : σ) :
    Faithful (station connection) { connection := connection } :=
  ⟨rfl, List.forall_mem_nil _⟩

theorem Faithful.note (hfaithful : Faithful start recorded) {use : Use} {next : σ}
    (hscreen : (station next).screen =
      (start.served (recorded.written ++ use.written?.toList)).screen) :
    Faithful start (recorded.note use next) := by
  constructor
  · rw [written_note]
    exact hscreen
  · rw [written_note, moments_note]
    intro moment hmem
    rcases List.mem_append.mp hmem with hbefore | hlast
    · obtain ⟨sent, hsent, hmoment⟩ := hfaithful.always moment hbefore
      exact ⟨sent, hsent.trans (List.prefix_append ..), hmoment⟩
    · rw [List.mem_singleton.mp hlast]
      exact ⟨_, List.prefix_rfl, hscreen⟩

/-- A use that sends nothing leaves the screen as it was. -/
theorem Faithful.note_of_unsent (hfaithful : Faithful start recorded) {use : Use} {next : σ}
    (hunsent : use.written? = none)
    (hscreen : (station next).screen = (station recorded.connection).screen) :
    Faithful start (recorded.note use next) := by
  apply hfaithful.note
  rw [hunsent, Option.toList_none, List.append_nil, hscreen, hfaithful.now]

theorem Faithful.write (hfaithful : Faithful start recorded) (hrole : start.role = .master)
    (report : Report) : Faithful start (Connection.write report recorded).1 := by
  rcases hwrite : Connection.write report recorded with ⟨next, fault | _⟩ <;>
    rw [eq_note_of_write hwrite]
  · exact hfaithful.note_of_unsent rfl
      (KeyboardConnection.screen_of_failed_write (write_connection hwrite))
  · apply hfaithful.note
    change _ = (start.served (recorded.written ++ [report])).screen
    rw [KeyboardConnection.screen_of_write (write_connection hwrite), Station.served_concat]
    apply Station.screen_run_congr
    · rw [KeyboardConnection.role_station, Station.role_served, hrole]
    · exact hfaithful.now

end Recorded

theorem Conversation.Step.faithful {start : Station capacity}
    {conversation next : Conversation (Recorded σ)} (hstep : Step conversation next)
    (hrole : start.role = .master) (hfaithful : conversation.connection.Faithful start) :
    next.connection.Faithful start := by
  cases hstep with
  | wrote report => exact hfaithful.write hrole report
  | paused => exact hfaithful.note_of_unsent rfl (KeyboardConnection.screen_pause ..)
  | waited hwaited =>
      cases hwaited with
      | clocked => exact hfaithful.note_of_unsent rfl (KeyboardConnection.screen_clock _)
      | missed hread | heard hread =>
          rw [Recorded.eq_note_of_read hread]
          exact hfaithful.note_of_unsent rfl
            (KeyboardConnection.screen_of_read (Recorded.read_connection hread))

end Host

end SplitPanel

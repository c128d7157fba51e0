import Mathlib
import SplitPanel.Proofs.DrawnRows
import SplitPanel.Proofs.ServedScreens

/-!
# Screens shown at once

The host draws a screen with many requests, one for each line and a last one that shows them all,
and it may have to give up after any of them.  On the screen this is a single change: the requests
that were sent are the first ones of the drawing, and only the very last of them changes the front
grid.  So what is on the screen is at every moment what was on it before or the whole new image.
-/

namespace SplitPanel

open Screen (Buffers Edit)

namespace Host

/-- The requests that set lines, the first of them for row `line`. -/
def lineRequests (screen : Side) (line : ℕ) (lines : List String) : List Request :=
  (lines.zipIdx line).map fun (text, line) =>
    .setLine screen (UInt8.ofNat line) (Text.utf8 text)

/-- The requests that draw lines on a screen and show it. -/
def drawRequests (screen : Side) (lines : List String) : List Request :=
  lineRequests screen 0 lines ++ [.present screen]

theorem lineRequests_cons (screen : Side) (line : ℕ) (text : String) (rest : List String) :
    lineRequests screen line (text :: rest) =
      [.setLine screen (UInt8.ofNat line) (Text.utf8 text)] ++
        lineRequests screen (line + 1) rest := by
  rw [lineRequests, List.zipIdx_cons]
  rfl

theorem screen_of_mem_drawRequests {screen : Side} {lines : List String} {request : Request}
    (hmem : request ∈ drawRequests screen lines) : request.screen = screen := by
  rcases List.mem_append.mp hmem with hline | hpresent
  · obtain ⟨_, -, rfl⟩ := List.mem_map.mp hline
    rfl
  · rw [List.mem_singleton.mp hpresent]
    rfl

/-- The part of a line that gets to the keyboard. -/
def lineBytes (line : String) : List UInt8 :=
  (Station.lineText (Text.utf8 line)).take maxText

theorem arrivingText_utf8 (line : String) :
    Request.arrivingText (Text.utf8 line) = lineBytes line :=
  List.take_takeWhile.symm

theorem edits_lineRequests (lines : List String) :
    (lineRequests .master 0 lines).map Request.edit = Edit.lines (lines.map lineBytes) := by
  rw [lineRequests, Edit.lines, List.zipIdx_map, List.map_map, List.map_map]
  apply List.map_congr_left
  rintro ⟨line, place⟩ -
  exact congrArg (Edit.setLine (UInt8.ofNat place)) (arrivingText_utf8 line)

theorem edits_drawRequests (lines : List String) :
    (drawRequests .master lines).map Request.edit =
      Edit.lines (lines.map lineBytes) ++ [.present] := by
  rw [drawRequests, List.map_append, edits_lineRequests]
  rfl

/-! ## What is sent -/

/-- The reports that requests are sent in. -/
def reportsOf (requests : List Request) : List Report :=
  requests.map fun request => request.toFrame.report

/-- Some of the requests were sent, from the first on, and all of them if all went well. -/
def Sent (requests : List Request) (before after : List Report) (result : Except HostFault Unit) :
    Prop :=
  ∃ sent, sent <+: requests ∧ after = before ++ reportsOf sent ∧
    (result = .ok () → sent = requests)

section

variable {before between after : List Report} {requests rest : List Request}

theorem Sent.append {result : Except HostFault Unit}
    (hfirst : Sent requests before between (.ok ())) (hrest : Sent rest between after result) :
    Sent (requests ++ rest) before after result := by
  obtain ⟨sentFirst, -, rfl, hall⟩ := hfirst
  obtain ⟨sent, hsent, rfl, hwell⟩ := hrest
  rw [hall rfl]
  refine ⟨requests ++ sent, (List.prefix_append_right_inj requests).mpr hsent, ?_, ?_⟩
  · rw [reportsOf, reportsOf, reportsOf, List.map_append, List.append_assoc]
  · intro hresult
    rw [hwell hresult]

/-- After a failure nothing more is sent. -/
theorem Sent.append_of_error {fault : HostFault}
    (hfirst : Sent requests before after (.error fault)) :
    Sent (requests ++ rest) before after (.error fault) := by
  obtain ⟨sent, hsent, hafter, -⟩ := hfirst
  exact ⟨sent, hsent.trans (List.prefix_append ..), hafter, by simp⟩

end

namespace Conversation

variable {σ : Type} [Connection σ]

theorem Waited.written_eq {conversation next : Conversation (Recorded σ)}
    (hwaited : Waited conversation next) :
    next.connection.written = conversation.connection.written := by
  induction hwaited with
  | refl => rfl
  | tail _ hstep ih =>
      rw [← ih]
      cases hstep with
      | clocked => exact (Recorded.written_note ..).trans (List.append_nil _)
      | missed hread | heard hread =>
          rw [Recorded.eq_note_of_read hread, Recorded.written_note]
          exact List.append_nil _

theorem sent_command (asked : Request) (conversation : Conversation (Recorded σ)) :
    Sent [asked] conversation.connection.written
      (conversation.command asked).1.connection.written (conversation.command asked).2 := by
  rw [command_fst]
  rcases conversation.request_cases asked with
    ⟨next, fault, hwrite, hrequest⟩ | ⟨next, hwrite, hrequest⟩ <;>
    have hnext := congrArg Recorded.written (Recorded.eq_note_of_write hwrite) <;>
    rw [Recorded.written_note] at hnext
  · rw [command, hrequest]
    exact ⟨[], List.nil_prefix, hnext, by simp⟩
  · rw [hrequest]
    refine ⟨[asked], List.prefix_rfl, ?_, fun _ => rfl⟩
    have hclocked : (Connection.clock next).1.written = next.written :=
      (Recorded.written_note ..).trans (List.append_nil _)
    exact (Waited.written_eq (waited_awaitResponse ..)).trans (hclocked.trans hnext)

theorem written_pauseAfterLine (conversation : Conversation (Recorded σ)) :
    conversation.pauseAfterLine.connection.written = conversation.connection.written := by
  rw [pauseAfterLine]
  split
  · rfl
  · exact (Recorded.written_note ..).trans (List.append_nil _)

theorem sent_sendLines (screen : Side) (line : ℕ) (lines : List String)
    (conversation : Conversation (Recorded σ)) :
    Sent (lineRequests screen line lines) conversation.connection.written
      (conversation.sendLines screen line lines).1.connection.written
      (conversation.sendLines screen line lines).2 := by
  induction lines generalizing line conversation with
  | nil => exact ⟨[], List.prefix_rfl, (List.append_nil _).symm, fun _ => rfl⟩
  | cons text rest ih =>
      have hcommand :=
        sent_command (.setLine screen (UInt8.ofNat line) (Text.utf8 text)) conversation
      rw [lineRequests_cons, sendLines]
      rcases hasked : conversation.command
          (.setLine screen (UInt8.ofNat line) (Text.utf8 text)) with ⟨next, fault | _⟩ <;>
        rw [hasked] at hcommand
      · exact hcommand.append_of_error
      · rw [← written_pauseAfterLine next] at hcommand
        exact hcommand.append (ih ..)

/-- Whatever the connection does, a drawing is sent from its first request on, and as a whole if it
goes well. -/
theorem sent_showScreen (screen : Side) (lines : List String)
    (conversation : Conversation (Recorded σ)) :
    Sent (drawRequests screen (lines.take conversation.rows)) conversation.connection.written
      (conversation.showScreen screen lines).1.connection.written
      (conversation.showScreen screen lines).2 := by
  have hlines := sent_sendLines screen 0 (lines.take conversation.rows) conversation
  rw [drawRequests, showScreen]
  rcases hsent : conversation.sendLines screen 0 (lines.take conversation.rows) with
    ⟨next, fault | _⟩ <;> rw [hsent] at hlines
  · exact hlines.append_of_error
  · exact hlines.append (sent_command ..)

end Conversation

/-! ## What is on the screen -/

section

variable {capacity : ℕ} {start : Station capacity} {lines : List String}

/-- The cells of a screen that lines are drawn on.  A row without a line is as it is in the back
grid. -/
def imageOf (lines : List String) (screen : Buffers capacity) : List UInt8 :=
  screen.geometry.drawn (lines.map lineBytes) screen.back

theorem front_served_lineRequests {requests : List Request}
    (hrequests : requests <+: lineRequests .master 0 lines) :
    (start.served (reportsOf requests)).screen.front = start.screen.front := by
  have hmaster : ∀ request ∈ requests, request.screen = .master := by
    intro request hmem
    exact screen_of_mem_drawRequests (List.mem_append_left _ (hrequests.subset hmem))
  rw [reportsOf, Request.screen_served hmaster]
  apply Buffers.front_after_of_lines
  intro edit hmem
  apply Edit.exists_setLine_of_mem_lines
  rw [← edits_lineRequests]
  exact (hrequests.map Request.edit).subset hmem

theorem front_served_drawRequests (hfits : start.screen.geometry.check capacity = .ok ())
    (hsome : lines ≠ []) :
    (start.served (reportsOf (drawRequests .master
      (lines.take start.screen.geometry.rows.toNat)))).screen.front =
        imageOf lines start.screen := by
  obtain ⟨-, hrows, -⟩ := Screen.Geometry.check_eq_ok_iff.mp hfits
  rw [reportsOf, Request.screen_served fun _ => screen_of_mem_drawRequests, edits_drawRequests,
    Buffers.front_after_drawing hfits, imageOf, List.map_take, Screen.Geometry.drawn_take]
  · rw [List.length_map]
    exact List.length_take_le ..
  · rw [ne_eq, List.map_eq_nil_iff, List.take_eq_nil_iff, not_or]
    exact ⟨fun hnone => hrows (UInt8.toNat_inj.mp hnone), hsome⟩

/-- Only the last request of a drawing changes what is on the screen. -/
theorem front_served_of_sent (hfits : start.screen.geometry.check capacity = .ok ())
    (hsome : lines ≠ []) {requests : List Request} (hsent : requests <+:
      drawRequests .master (lines.take start.screen.geometry.rows.toNat)) :
    (start.served (reportsOf requests)).screen.front = start.screen.front ∨
      Request.present .master ∈ requests ∧
        (start.served (reportsOf requests)).screen.front = imageOf lines start.screen := by
  rcases List.prefix_concat_iff.mp hsent with rfl | hlines
  · exact .inr ⟨List.mem_concat_self, front_served_drawRequests hfits hsome⟩
  · exact .inl (front_served_lineRequests hlines)

end

namespace Conversation

open KeyboardConnection (station)

variable {σ : Type} {capacity : ℕ} [KeyboardConnection σ capacity]

/-- Once the host has learned the size of the screen, and whatever else was asked since, a drawing
of at least one line shows up at once: at every moment the front grid is what it was before or the
new image, and it is the new image if the drawing went well, and what it was before as long as the
last request was not sent. -/
theorem shown_at_once {conversation ready : Conversation σ} {size : UInt8 × UInt8}
    (hready : conversation.learnSize = (ready, .ok size)) (calls : List Call)
    {lines : List String} (hlines : lines ≠ []) :
    let before := (ready.callAll calls).1
    let image := imageOf lines before.screen
    let drawn := before.recorded.showScreen .master lines
    before.showScreen .master lines = (drawn.1.unrecorded, drawn.2) ∧
      (∀ moment ∈ drawn.1.connection.moments,
        (station moment).screen.front = before.screen.front ∨
          (station moment).screen.front = image) ∧
      (drawn.2 = .ok () → drawn.1.unrecorded.screen.front = image) ∧
      ((Request.present .master).toFrame.report ∉ drawn.1.connection.written →
        drawn.1.unrecorded.screen.front = before.screen.front) := by
  intro before image drawn
  have hlearned : conversation.learnSize.2 = .ok size := congrArg Prod.snd hready
  have hknows := (knows_learnSize hlearned).callAll calls
  rw [hready] at hknows
  have hrows : before.recorded.rows = before.screen.geometry.rows.toNat := by
    have hnoted : before.recorded.geometry = _ := hknows.noted
    rw [rows, hnoted]
    exact congrArg (·.rows.toNat) hknows.geometry_screen.symm
  have hfaithful : drawn.1.connection.Faithful (station before.connection) :=
    (steps_showScreen ..).keep (fun _ _ hstep => hstep.faithful (KeyboardConnection.role_station _))
      (Recorded.faithful_nil before.connection)
  obtain ⟨sent, hsent, hreports, hall⟩ := sent_showScreen .master lines before.recorded
  have hwritten : drawn.1.connection.written = reportsOf sent := hreports
  rw [hrows] at hsent hall
  -- By any moment the first of these requests were run, and nothing else was.
  have hfront : ∀ {requests}, requests <+: sent → _ := fun hrequests =>
    front_served_of_sent before.fits_screen hlines (hrequests.trans hsent)
  have hnow : drawn.1.unrecorded.screen =
      ((station before.connection).served (reportsOf sent)).screen := by
    rw [← hwritten]
    exact hfaithful.now
  refine ⟨showScreen_unrecorded .master lines before.recorded, ?_, ?_, ?_⟩
  · intro moment hmem
    obtain ⟨reports, hreports, hmoment⟩ := hfaithful.always moment hmem
    rw [hwritten] at hreports
    obtain ⟨requests, hrequests, rfl⟩ := List.prefix_map_iff.mp hreports
    rw [hmoment]
    exact (hfront hrequests).imp_right And.right
  · intro hwell
    rw [hnow, hall hwell]
    exact front_served_drawRequests before.fits_screen hlines
  · intro hunsent
    rw [hnow]
    refine (hfront List.prefix_rfl).resolve_right ?_
    rintro ⟨hpresent, -⟩
    rw [hwritten] at hunsent
    exact hunsent (List.mem_map_of_mem hpresent)

/-- A keyboard with a small screen that sends an event ahead of its first response. -/
def smallKeyboard : Keyboard 8 where
  board := {
    master := { role := .master, screen := .cleared ⟨3, 2⟩, outbox := .empty }
    slave := { role := .slave, screen := .cleared ⟨3, 2⟩, outbox := .empty }
    terminal := .start
    autoLink := true
    muted := false
    corruption := none
    beforeReply := [(TagEvent.increment .master).toFrame]
    reads := []
    arrivals := [] }
  genuine := {
    role_master := rfl
    fits_master := rfl
    isSent_beforeReply := by
      intro frame hmem
      rw [List.mem_singleton.mp hmem]
      exact .event (show TagEvent.ofBytes _ = .ok (some (.increment .master)) from rfl)
    isSent_reads := List.forall_mem_nil _ }

/-- Three lines on a screen with two rows, one of them too long for it. -/
theorem shown_at_once_of_three_lines :
    let start : Conversation (Keyboard 8) := { connection := smallKeyboard }
    let ready := start.learnSize.1
    let lines := ["ab", "cdef", "g"]
    let drawn := ready.recorded.showScreen .master lines
    start.learnSize.2 = .ok (3, 2) ∧ lines ≠ [] ∧ drawn.2 = .ok () ∧
      (∀ moment ∈ drawn.1.connection.moments,
        (station moment).screen.front = [0, 0, 0, 0, 0, 0] ∨
          (station moment).screen.front = [0x61, 0x62, 0x20, 0x63, 0x64, 0x65]) ∧
      drawn.1.unrecorded.screen.front = [0x61, 0x62, 0x20, 0x63, 0x64, 0x65] := by
  intro start ready lines drawn
  have hsize : start.learnSize.2 = .ok (3, 2) := by cbv
  have hready : start.learnSize = (ready, .ok (3, 2)) := Prod.ext rfl hsize
  have hlines : lines ≠ [] := List.cons_ne_nil _ _
  have hwell : drawn.2 = .ok () := by
    dsimp only [drawn, ready, start, lines]
    cbv
  have hscreen : ready.screen = .cleared ⟨3, 2⟩ := by
    dsimp only [ready, start]
    cbv
  have hfront : ready.screen.front = [0, 0, 0, 0, 0, 0] := by
    rw [hscreen]
    decide
  have himage : imageOf lines ready.screen = [0x61, 0x62, 0x20, 0x63, 0x64, 0x65] := by
    rw [hscreen]
    decide
  obtain ⟨-, hmoments, hdrawn, -⟩ := shown_at_once hready [] hlines
  rw [← hfront, ← himage]
  exact ⟨hsize, hlines, hwell, hmoments, hdrawn hwell⟩

end Conversation

end Host

end SplitPanel

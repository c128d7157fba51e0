import SplitPanel.Proofs.Waiting

/-!
# Recorded connections

A recorded connection keeps a record of every use that is made of it, with the state that the use
led to.  The record is kept beside the connection and looked at by nobody: a conversation over a
recorded connection goes exactly as it would go without the record.
-/

namespace SplitPanel.Host

/-- One use of a connection, with what came of it. -/
inductive Use where
  | wrote (report : Report) (result : Except HostFault Unit)
  | read (result : Except HostFault (Option Frame))
  | clocked
  | paused

namespace Use

/-- The report that was sent. -/
def written? : Use → Option Report
  | .wrote report (.ok ()) => some report
  | _ => none

/-- The report that was received. -/
def heard? : Use → Option Frame
  | .read (.ok frame) => frame
  | _ => none

end Use

/-- A connection with its record, the oldest use first. -/
structure Recorded (σ : Type) where
  connection : σ
  record : List (Use × σ) := []

namespace Recorded

variable {σ : Type}

def note (use : Use) (next : σ) (recorded : Recorded σ) : Recorded σ where
  connection := next
  record := recorded.record ++ [(use, next)]

/-- All reports sent, in order. -/
def written (recorded : Recorded σ) : List Report :=
  recorded.record.filterMap fun entry => entry.1.written?

/-- All reports received, in order. -/
def heard (recorded : Recorded σ) : List Frame :=
  recorded.record.filterMap fun entry => entry.1.heard?

/-- All states that the uses led to, in order. -/
def moments (recorded : Recorded σ) : List σ :=
  recorded.record.map Prod.snd

theorem filterMap_record_note {α : Type} (view : Use → Option α) (use : Use) (next : σ)
    (recorded : Recorded σ) :
    (recorded.note use next).record.filterMap (fun entry => view entry.1) =
      recorded.record.filterMap (fun entry => view entry.1) ++ (view use).toList := by
  rw [note, List.filterMap_append]
  cases hview : view use <;> simp [hview]

theorem heard_note (use : Use) (next : σ) (recorded : Recorded σ) :
    (recorded.note use next).heard = recorded.heard ++ use.heard?.toList :=
  recorded.filterMap_record_note Use.heard? use next

theorem written_note (use : Use) (next : σ) (recorded : Recorded σ) :
    (recorded.note use next).written = recorded.written ++ use.written?.toList :=
  recorded.filterMap_record_note Use.written? use next

theorem moments_note (use : Use) (next : σ) (recorded : Recorded σ) :
    (recorded.note use next).moments = recorded.moments ++ [next] := by
  rw [moments, note, List.map_append, moments, List.map_singleton]

variable [Connection σ]

instance : Connection (Recorded σ) where
  write report recorded :=
    let (next, result) := Connection.write report recorded.connection
    (recorded.note (.wrote report result) next, result)
  read wait recorded :=
    let (next, result) := Connection.read wait recorded.connection
    (recorded.note (.read result) next, result)
  clock recorded :=
    let (next, now) := Connection.clock recorded.connection
    (recorded.note .clocked next, now)
  pause time recorded :=
    recorded.note .paused (Connection.pause time recorded.connection)
  stock deadline recorded := Connection.stock deadline recorded.connection
  stock_read_lt deadline recorded frame next hahead hread := by
    rw [Prod.mk.injEq] at hread
    obtain ⟨rfl, hframe⟩ := hread
    exact Connection.stock_read_lt deadline recorded.connection frame _ hahead
      (Prod.ext rfl hframe)

section

variable {recorded next : Recorded σ}

/-- A write is the same without the record. -/
theorem write_connection {report : Report} {result : Except HostFault Unit}
    (hwrite : Connection.write report recorded = (next, result)) :
    Connection.write report recorded.connection = (next.connection, result) := by
  have hforgotten := congrArg (fun entry => (entry.1.connection, entry.2)) hwrite
  exact hforgotten

/-- A write is noted with what came of it. -/
theorem eq_note_of_write {report : Report} {result : Except HostFault Unit}
    (hwrite : Connection.write report recorded = (next, result)) :
    next = recorded.note (.wrote report result) next.connection := by
  obtain ⟨rfl, rfl⟩ := Prod.mk.inj hwrite
  rfl

variable {wait : ℕ} {result : Except HostFault (Option Frame)}
  (hread : Connection.read wait recorded = (next, result))
include hread

/-- A read is the same without the record. -/
theorem read_connection :
    Connection.read wait recorded.connection = (next.connection, result) := by
  have hforgotten := congrArg (fun entry => (entry.1.connection, entry.2)) hread
  exact hforgotten

/-- A read is noted with what came of it. -/
theorem eq_note_of_read : next = recorded.note (.read result) next.connection := by
  obtain ⟨rfl, rfl⟩ := Prod.mk.inj hread
  rfl

end

end Recorded

namespace Conversation

variable {σ : Type}

/-- The same conversation with an empty record. -/
def recorded (conversation : Conversation σ) : Conversation (Recorded σ) where
  connection := { connection := conversation.connection }
  geometry := conversation.geometry
  events := conversation.events
  timeout := conversation.timeout
  lineDelay := conversation.lineDelay

/-- The same conversation without its record. -/
def unrecorded (conversation : Conversation (Recorded σ)) : Conversation σ where
  connection := conversation.connection.connection
  geometry := conversation.geometry
  events := conversation.events
  timeout := conversation.timeout
  lineDelay := conversation.lineDelay

variable [Connection σ]

theorem awaitResponse_unrecorded (request : Request) (deadline : ℕ)
    (conversation : Conversation (Recorded σ)) :
    conversation.unrecorded.awaitResponse request deadline =
      ((conversation.awaitResponse request deadline).1.unrecorded,
        (conversation.awaitResponse request deadline).2) := by
  fun_induction awaitResponse request deadline conversation with
  | case1 conversation _ _ hover => exact awaitResponse_of_over conversation.unrecorded hover
  | case2 conversation _ _ hahead next fault hread =>
      exact awaitResponse_of_failure conversation.unrecorded hahead (Recorded.read_connection hread)
  | case3 conversation _ _ hahead next hread =>
      exact awaitResponse_of_silence conversation.unrecorded hahead (Recorded.read_connection hread)
  | case4 conversation _ _ hahead next frame hread event hevent ih =>
      rw [← ih]
      exact awaitResponse_of_event conversation.unrecorded hahead
        (Recorded.read_connection hread) hevent
  | case5 conversation _ _ hahead next frame hread hevent verdict hverdict =>
      exact awaitResponse_of_verdict conversation.unrecorded hahead
        (Recorded.read_connection hread) hevent hverdict
  | case6 conversation _ _ hahead next frame hread hevent hverdict ih =>
      rw [← ih]
      exact awaitResponse_of_other conversation.unrecorded hahead
        (Recorded.read_connection hread) hevent hverdict

theorem awaitEvent_unrecorded (deadline : ℕ) (conversation : Conversation (Recorded σ)) :
    conversation.unrecorded.awaitEvent deadline =
      ((conversation.awaitEvent deadline).1.unrecorded, (conversation.awaitEvent deadline).2) := by
  fun_induction awaitEvent deadline conversation with
  | case1 conversation _ _ next fault hread =>
      exact awaitEvent_of_failure conversation.unrecorded (Recorded.read_connection hread)
  | case2 conversation _ _ next hread =>
      exact awaitEvent_of_silence conversation.unrecorded (Recorded.read_connection hread)
  | case3 conversation _ _ next frame hread event hevent =>
      exact awaitEvent_of_event conversation.unrecorded (Recorded.read_connection hread) hevent
  | case4 conversation _ _ next frame hread hevent hover =>
      exact awaitEvent_of_last conversation.unrecorded (Recorded.read_connection hread) hevent hover
  | case5 conversation _ _ next frame hread hevent hahead ih =>
      rw [← ih]
      exact awaitEvent_of_other conversation.unrecorded (Recorded.read_connection hread) hevent
        hahead

theorem request_unrecorded (asked : Request) (conversation : Conversation (Recorded σ)) :
    conversation.unrecorded.request asked =
      ((conversation.request asked).1.unrecorded, (conversation.request asked).2) := by
  have hwrite : Connection.write asked.toFrame.report conversation.unrecorded.connection =
      ((Connection.write asked.toFrame.report conversation.connection).1.connection,
        (Connection.write asked.toFrame.report conversation.connection).2) := rfl
  rw [Conversation.request, Conversation.request, hwrite]
  rcases Connection.write asked.toFrame.report conversation.connection with ⟨next, _ | _⟩
  · rfl
  · exact awaitResponse_unrecorded asked _ { conversation with
      connection := (Connection.clock next).1 }

theorem command_unrecorded (asked : Request) (conversation : Conversation (Recorded σ)) :
    conversation.unrecorded.command asked =
      ((conversation.command asked).1.unrecorded, (conversation.command asked).2) := by
  rw [command, command, request_unrecorded]
  rcases conversation.request asked with ⟨next, _ | _⟩ <;> rfl

theorem learnSize_unrecorded (conversation : Conversation (Recorded σ)) :
    conversation.unrecorded.learnSize =
      (conversation.learnSize.1.unrecorded, conversation.learnSize.2) := by
  rw [learnSize, learnSize, request_unrecorded]
  rcases conversation.request (.setUp .master) with ⟨next, _ | frame⟩
  · rfl
  · cases hsize : reportedSize frame with
    | error fault => simp only [hsize]
    | ok size =>
        simp only [hsize]
        rfl

theorem pauseAfterLine_unrecorded (conversation : Conversation (Recorded σ)) :
    conversation.unrecorded.pauseAfterLine = conversation.pauseAfterLine.unrecorded := by
  have hdelay : conversation.unrecorded.lineDelay = conversation.lineDelay := rfl
  by_cases hnone : conversation.lineDelay = 0
  · simp only [pauseAfterLine, hdelay, if_pos hnone]
  · simp only [pauseAfterLine, hdelay, if_neg hnone]
    rfl

theorem sendLines_unrecorded (screen : Side) (line : ℕ) (lines : List String)
    (conversation : Conversation (Recorded σ)) :
    conversation.unrecorded.sendLines screen line lines =
      ((conversation.sendLines screen line lines).1.unrecorded,
        (conversation.sendLines screen line lines).2) := by
  induction lines generalizing line conversation with
  | nil => rfl
  | cons text rest ih =>
      rw [sendLines, sendLines, command_unrecorded]
      rcases conversation.command (.setLine screen (UInt8.ofNat line) (Text.utf8 text)) with
        ⟨next, _ | _⟩
      · rfl
      · simp only [pauseAfterLine_unrecorded]
        exact ih (line + 1) next.pauseAfterLine

theorem showScreen_unrecorded (screen : Side) (lines : List String)
    (conversation : Conversation (Recorded σ)) :
    conversation.unrecorded.showScreen screen lines =
      ((conversation.showScreen screen lines).1.unrecorded,
        (conversation.showScreen screen lines).2) := by
  have hrows : conversation.unrecorded.rows = conversation.rows := rfl
  rw [showScreen, showScreen, sendLines_unrecorded, hrows]
  rcases conversation.sendLines screen 0 (lines.take conversation.rows) with ⟨next, _ | _⟩
  · rfl
  · exact command_unrecorded (.present screen) next

theorem nextEvent_unrecorded (wait : ℕ) (conversation : Conversation (Recorded σ)) :
    conversation.unrecorded.nextEvent wait =
      ((conversation.nextEvent wait).1.unrecorded, (conversation.nextEvent wait).2) := by
  cases hevents : conversation.events with
  | nil =>
      rw [nextEvent_of_empty _ hevents, nextEvent_of_empty conversation.unrecorded hevents]
      exact awaitEvent_unrecorded _ { conversation with
        connection := (Connection.clock conversation.connection).1 }
  | cons event rest =>
      rw [nextEvent_of_queued _ hevents, nextEvent_of_queued conversation.unrecorded hevents]
      rfl

end Conversation

end SplitPanel.Host

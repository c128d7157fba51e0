import SplitPanel.Proofs.Calls
import SplitPanel.Proofs.Recording

/-!
# The queue of events

Events may come at any time, ahead of a response, in place of one that never comes, or just before
the connection fails.  Whatever is asked of a conversation and however it ends, no event is lost,
none is handed out twice, and none overtakes another: the events handed out and the events still
queued are the events received, in the order in which they came.
-/

namespace SplitPanel.Host

namespace Conversation

variable {σ : Type} [Connection σ]

/-- All reports that are received during some calls, in order. -/
def heardDuring (calls : List Call) (conversation : Conversation σ) : List Frame :=
  (conversation.recorded.callAll calls).1.connection.heard

theorem callAll_unrecorded (calls : List Call) (conversation : Conversation (Recorded σ)) :
    conversation.unrecorded.callAll calls =
      ((conversation.callAll calls).1.unrecorded, (conversation.callAll calls).2) := by
  induction calls generalizing conversation with
  | nil => rfl
  | cons call rest ih =>
      have hcall : conversation.unrecorded.call call =
          ((conversation.call call).1.unrecorded, (conversation.call call).2) := by
        cases call with
        | learnSize => rw [Conversation.call, learnSize_unrecorded]; rfl
        | clear screen => rw [Conversation.call, clear, command_unrecorded]; rfl
        | showScreen screen lines => rw [Conversation.call, showScreen_unrecorded]; rfl
        | request asked => rw [Conversation.call, request_unrecorded]; rfl
        | nextEvent wait => rw [Conversation.call, nextEvent_unrecorded]; rfl
      simp only [callAll, hcall, ih]

/-- The events handed out so far and the events in the queue are the events received. -/
def Accounted (given : List TagEvent) (conversation : Conversation (Recorded σ)) : Prop :=
  given ++ conversation.events = decodedEvents conversation.connection.heard

section

variable {given : List TagEvent} {conversation : Conversation (Recorded σ)}

omit [Connection σ] in
/-- A use that hears nothing leaves the account as it is. -/
theorem Accounted.note {use : Use} {next : σ} (haccounted : Accounted given conversation)
    (hnone : use.heard? = none) :
    Accounted given { conversation with connection := conversation.connection.note use next } := by
  rw [Accounted, Recorded.heard_note, hnone, Option.toList_none, List.append_nil]
  exact haccounted

theorem Accounted.step {next : Conversation (Recorded σ)}
    (haccounted : Accounted given conversation) (hstep : Step conversation next) :
    Accounted given next := by
  cases hstep with
  | wrote => exact haccounted.note rfl
  | paused => exact haccounted.note rfl
  | waited hwaited =>
      cases hwaited with
      | clocked => exact haccounted.note rfl
      | @missed _ _ result hread hnone =>
          have hheard : (Use.read result).heard? = none := by
            cases result with
            | error _ => rfl
            | ok frame =>
                cases frame with
                | none => rfl
                | some frame => exact absurd rfl (hnone frame)
          rw [Accounted, Recorded.eq_note_of_read hread, Recorded.heard_note, hheard,
            Option.toList_none, List.append_nil]
          exact haccounted
      | @heard _ _ frame hread =>
          rw [Accounted, Recorded.eq_note_of_read hread, Recorded.heard_note,
            decodedEvents_append, ← haccounted, ← decodedEvents_singleton, List.append_assoc]
          rfl

theorem Accounted.steps {next : Conversation (Recorded σ)}
    (haccounted : Accounted given conversation) (hsteps : Steps conversation next) :
    Accounted given next :=
  hsteps.keep (fun _ _ hstep hearlier => hearlier.step hstep) haccounted

theorem Accounted.learnSize (haccounted : Accounted given conversation) :
    Accounted given conversation.learnSize.1 := by
  have hasked := haccounted.steps (steps_request (.setUp .master) conversation)
  rcases conversation.learnSize_cases with ⟨fault, hlearned⟩ | ⟨frame, size, -, -, hlearned⟩ <;>
    rw [hlearned] <;> exact hasked

/-- An event that is handed out comes from the front of the queue, or from the connection when the
queue is empty. -/
theorem Accounted.nextEvent (haccounted : Accounted given conversation) (wait : ℕ) :
    Accounted (given ++ received (conversation.nextEvent wait).2)
      (conversation.nextEvent wait).1 := by
  cases hevents : conversation.events with
  | nil =>
      rw [nextEvent_of_empty _ hevents]
      have hclocked := haccounted.step (.waited (.clocked conversation))
      generalize (Connection.clock conversation.connection).2 + wait = deadline
      generalize hstart : { conversation with
        connection := (Connection.clock conversation.connection).1 } = start at hclocked ⊢
      have hempty : start.events = [] := by rw [← hstart]; exact hevents
      obtain ⟨hkept, hwaited⟩ := waited_awaitEvent deadline start
      -- The event would be alone in the queue if it were queued.
      have hqueued := hclocked.steps hwaited.steps
      rw [Accounted, hempty, List.nil_append] at hqueued
      rw [Accounted, hkept, hempty, List.append_nil]
      exact hqueued
  | cons event rest =>
      rw [nextEvent_of_queued _ hevents, Accounted, received, Option.toList_some, List.append_assoc]
      rw [Accounted, hevents] at haccounted
      exact haccounted

theorem Accounted.call (haccounted : Accounted given conversation) (call : Call) :
    Accounted (given ++ (conversation.call call).2) (conversation.call call).1 := by
  cases call with
  | nextEvent wait => exact haccounted.nextEvent wait
  | learnSize =>
      rw [Conversation.call, List.append_nil]
      exact haccounted.learnSize
  | clear screen =>
      rw [Conversation.call, List.append_nil]
      exact haccounted.steps (steps_command ..)
  | showScreen screen lines =>
      rw [Conversation.call, List.append_nil]
      exact haccounted.steps (steps_showScreen ..)
  | request asked =>
      rw [Conversation.call, List.append_nil]
      exact haccounted.steps (steps_request ..)

theorem Accounted.callAll (haccounted : Accounted given conversation) (calls : List Call) :
    Accounted (given ++ (conversation.callAll calls).2) (conversation.callAll calls).1 := by
  induction calls generalizing given conversation with
  | nil =>
      rw [Conversation.callAll, List.append_nil]
      exact haccounted
  | cons call rest ih =>
      rw [Conversation.callAll, ← List.append_assoc]
      exact ih (haccounted.call call)

end

/-- Whatever is asked of a new conversation, and whatever comes over its connection, the events
handed out and the events still in the queue are all events that were received, each once and in
the order in which they came. -/
theorem events_in_order (connection : σ) (timeout lineDelay : ℕ) (calls : List Call) :
    let start : Conversation σ := { connection, timeout, lineDelay }
    (start.callAll calls).2 ++ (start.callAll calls).1.events =
      decodedEvents (start.heardDuring calls) := by
  intro start
  have hstart : Accounted [] start.recorded := rfl
  have haccounted := hstart.callAll calls
  rw [show start.callAll calls = _ from callAll_unrecorded calls start.recorded]
  exact haccounted

end Conversation

end SplitPanel.Host

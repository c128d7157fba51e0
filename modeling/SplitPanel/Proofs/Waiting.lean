import Mathlib.Data.Nat.Notation
import Mathlib.Logic.Relation
import SplitPanel.Host.Conversation

/-!
# Waiting for the keyboard

Waiting for a response and waiting for an event are a look at the clock and a read, again and
again.  All that a wait does to a conversation is what these two do to it: the connection goes on,
and the events that are read are queued.
-/

namespace SplitPanel.Host

/-! ## Reports that are events -/

/-- The events that are read from reports, in order.  Reports of anything else are left out. -/
def decodedEvents (frames : List Frame) : List TagEvent :=
  frames.filterMap fun frame => (TagEvent.ofBytes frame.bytes).toOption.join

theorem eventOf?_eq (frame : Frame) :
    eventOf? frame = (TagEvent.ofBytes frame.bytes).toOption.join := by
  rw [eventOf?]
  cases TagEvent.ofBytes frame.bytes <;> rfl

theorem eventOf?_eq_some_iff {frame : Frame} {event : TagEvent} :
    eventOf? frame = some event ↔ TagEvent.ofBytes frame.bytes = .ok (some event) := by
  rw [eventOf?_eq]
  cases TagEvent.ofBytes frame.bytes <;> simp [Except.toOption]

theorem decodedEvents_nil : decodedEvents [] = [] := rfl

theorem decodedEvents_append (earlier later : List Frame) :
    decodedEvents (earlier ++ later) = decodedEvents earlier ++ decodedEvents later :=
  List.filterMap_append ..

theorem decodedEvents_cons (frame : Frame) (frames : List Frame) :
    decodedEvents (frame :: frames) = (eventOf? frame).toList ++ decodedEvents frames := by
  rw [decodedEvents, List.filterMap_cons, ← eventOf?_eq]
  cases eventOf? frame <;> rfl

theorem decodedEvents_singleton (frame : Frame) :
    decodedEvents [frame] = (eventOf? frame).toList := by
  rw [decodedEvents_cons]
  exact List.append_nil _

namespace Conversation

variable {σ : Type} [Connection σ]

/-! ## The turns of a wait for a response -/

section

variable {request : Request} {deadline : ℕ} (conversation : Conversation σ)

theorem awaitResponse_of_over
    (hover : deadline - (Connection.clock conversation.connection).2 = 0) :
    conversation.awaitResponse request deadline =
      ({ conversation with connection := (Connection.clock conversation.connection).1 },
        .error (.timeout request.command request.screen)) := by
  rw [awaitResponse, dif_pos hover]

variable {next : σ} (hahead : deadline - (Connection.clock conversation.connection).2 ≠ 0)
include hahead

theorem awaitResponse_of_failure {fault : HostFault}
    (hread : Connection.read (deadline - (Connection.clock conversation.connection).2)
      (Connection.clock conversation.connection).1 = (next, .error fault)) :
    conversation.awaitResponse request deadline =
      ({ conversation with connection := next }, .error fault) := by
  rw [awaitResponse, dif_neg hahead]
  split <;> simp_all

theorem awaitResponse_of_silence
    (hread : Connection.read (deadline - (Connection.clock conversation.connection).2)
      (Connection.clock conversation.connection).1 = (next, .ok none)) :
    conversation.awaitResponse request deadline =
      ({ conversation with connection := next },
        .error (.timeout request.command request.screen)) := by
  rw [awaitResponse, dif_neg hahead]
  split <;> simp_all

variable {frame : Frame}
  (hread : Connection.read (deadline - (Connection.clock conversation.connection).2)
    (Connection.clock conversation.connection).1 = (next, .ok (some frame)))
include hread

theorem awaitResponse_of_event {event : TagEvent} (hevent : eventOf? frame = some event) :
    conversation.awaitResponse request deadline =
      { conversation with
        connection := next
        events := conversation.events ++ [event] }.awaitResponse request deadline := by
  rw [awaitResponse, dif_neg hahead]
  split <;> simp_all

theorem awaitResponse_of_verdict {verdict : Except HostFault Frame}
    (hevent : eventOf? frame = none) (hverdict : verdict? request frame = some verdict) :
    conversation.awaitResponse request deadline =
      ({ conversation with connection := next }, verdict) := by
  rw [awaitResponse, dif_neg hahead]
  split <;> simp_all

theorem awaitResponse_of_other (hevent : eventOf? frame = none)
    (hverdict : verdict? request frame = none) :
    conversation.awaitResponse request deadline =
      { conversation with connection := next }.awaitResponse request deadline := by
  rw [awaitResponse, dif_neg hahead]
  split <;> simp_all

end

/-! ## The turns of a wait for an event -/

section

variable {deadline : ℕ} (conversation : Conversation σ) {next : σ}

theorem awaitEvent_of_failure {fault : HostFault}
    (hread : Connection.read (deadline - (Connection.clock conversation.connection).2)
      (Connection.clock conversation.connection).1 = (next, .error fault)) :
    conversation.awaitEvent deadline =
      ({ conversation with connection := next }, .error fault) := by
  rw [awaitEvent]
  split <;> simp_all

theorem awaitEvent_of_silence
    (hread : Connection.read (deadline - (Connection.clock conversation.connection).2)
      (Connection.clock conversation.connection).1 = (next, .ok none)) :
    conversation.awaitEvent deadline = ({ conversation with connection := next }, .ok none) := by
  rw [awaitEvent]
  split <;> simp_all

variable {frame : Frame}
  (hread : Connection.read (deadline - (Connection.clock conversation.connection).2)
    (Connection.clock conversation.connection).1 = (next, .ok (some frame)))
include hread

theorem awaitEvent_of_event {event : TagEvent} (hevent : eventOf? frame = some event) :
    conversation.awaitEvent deadline =
      ({ conversation with connection := next }, .ok (some event)) := by
  rw [awaitEvent]
  split <;> simp_all

theorem awaitEvent_of_last (hevent : eventOf? frame = none)
    (hover : deadline - (Connection.clock conversation.connection).2 = 0) :
    conversation.awaitEvent deadline = ({ conversation with connection := next }, .ok none) := by
  rw [awaitEvent]
  split <;> simp_all

theorem awaitEvent_of_other (hevent : eventOf? frame = none)
    (hahead : deadline - (Connection.clock conversation.connection).2 ≠ 0) :
    conversation.awaitEvent deadline =
      { conversation with connection := next }.awaitEvent deadline := by
  rw [awaitEvent]
  split <;> simp_all

end

theorem nextEvent_of_queued (conversation : Conversation σ) {event : TagEvent}
    {rest : List TagEvent} (hevents : conversation.events = event :: rest) (wait : ℕ) :
    conversation.nextEvent wait = ({ conversation with events := rest }, .ok (some event)) := by
  rw [nextEvent, hevents]

theorem nextEvent_of_empty (conversation : Conversation σ) (hevents : conversation.events = [])
    (wait : ℕ) :
    conversation.nextEvent wait =
      { conversation with connection := (Connection.clock conversation.connection).1 }.awaitEvent
        ((Connection.clock conversation.connection).2 + wait) := by
  rw [nextEvent]
  split
  · simp_all
  · rfl

/-! ## What a wait does -/

/-- What one step of a wait does to a conversation. -/
inductive WaitStep : Conversation σ → Conversation σ → Prop where
  | clocked (conversation : Conversation σ) :
      WaitStep conversation
        { conversation with connection := (Connection.clock conversation.connection).1 }
  | missed {conversation : Conversation σ} {wait : ℕ} {next : σ}
      {result : Except HostFault (Option Frame)}
      (hread : Connection.read wait conversation.connection = (next, result))
      (hnone : ∀ frame, result ≠ .ok (some frame)) :
      WaitStep conversation { conversation with connection := next }
  | heard {conversation : Conversation σ} {wait : ℕ} {next : σ} {frame : Frame}
      (hread : Connection.read wait conversation.connection = (next, .ok (some frame))) :
      WaitStep conversation { conversation with
        connection := next
        events := conversation.events ++ (eventOf? frame).toList }

/-- What any number of steps of a wait do to a conversation. -/
abbrev Waited : Conversation σ → Conversation σ → Prop :=
  Relation.ReflTransGen WaitStep

section

variable {conversation : Conversation σ} {wait : ℕ} {next : σ} {frame : Frame}
  (hread : Connection.read wait conversation.connection = (next, .ok (some frame)))
include hread

theorem WaitStep.heard_event {event : TagEvent} (hevent : eventOf? frame = some event) :
    WaitStep conversation { conversation with
      connection := next
      events := conversation.events ++ [event] } := by
  have hstep := WaitStep.heard hread
  rw [hevent] at hstep
  exact hstep

theorem WaitStep.heard_other (hevent : eventOf? frame = none) :
    WaitStep conversation { conversation with connection := next } := by
  have hstep := WaitStep.heard hread
  rw [hevent, Option.toList_none, List.append_nil] at hstep
  exact hstep

end

theorem waited_awaitResponse (request : Request) (deadline : ℕ) (conversation : Conversation σ) :
    Waited conversation (conversation.awaitResponse request deadline).1 := by
  fun_induction awaitResponse request deadline conversation with
  | case1 conversation => exact .single (.clocked conversation)
  | case2 conversation _ _ _ next fault hread =>
      exact .tail (.single (.clocked conversation)) (.missed hread (by simp))
  | case3 conversation _ _ _ next hread =>
      exact .tail (.single (.clocked conversation)) (.missed hread (by simp))
  | case4 conversation _ _ _ next frame hread event hevent ih =>
      exact .trans (.tail (.single (.clocked conversation)) (.heard_event hread hevent)) ih
  | case5 conversation _ _ _ next frame hread hevent =>
      exact .tail (.single (.clocked conversation)) (.heard_other hread hevent)
  | case6 conversation _ _ _ next frame hread hevent _ ih =>
      exact .trans (.tail (.single (.clocked conversation)) (.heard_other hread hevent)) ih

/-- A frame is only ever found to be the response itself. -/
theorem eq_of_verdict? {request : Request} {heard frame : Frame}
    (hverdict : verdict? request heard = some (.ok frame)) : frame = heard := by
  rw [verdict?] at hverdict
  split at hverdict
  · split at hverdict
    · split at hverdict <;> simp_all
    · contradiction
  · contradiction

/-- A response that was waited for was read as one, and not as an event. -/
theorem awaitResponse_eq_ok {request : Request} {deadline : ℕ} {conversation : Conversation σ}
    {frame : Frame} (hwaited : (conversation.awaitResponse request deadline).2 = .ok frame) :
    eventOf? frame = none ∧ verdict? request frame = some (.ok frame) ∧
      ∃ earlier wait next, Waited conversation earlier ∧
        Connection.read wait earlier.connection = (next, .ok (some frame)) := by
  fun_induction awaitResponse request deadline conversation with
  | case1 | case2 | case3 => contradiction
  | case4 conversation _ _ _ next heard hread event hevent ih =>
      obtain ⟨hnone, hverdict, earlier, wait, last, hbefore, hlast⟩ := ih hwaited
      refine ⟨hnone, hverdict, earlier, wait, last, .trans ?_ hbefore, hlast⟩
      exact .tail (.single (.clocked conversation)) (.heard_event hread hevent)
  | case5 conversation _ _ _ next heard hread hevent verdict hverdict =>
      subst hwaited
      obtain rfl := eq_of_verdict? hverdict
      exact ⟨hevent, hverdict, _, _, next, .single (.clocked conversation), hread⟩
  | case6 conversation _ _ _ next heard hread hevent _ ih =>
      obtain ⟨hnone, hverdict, earlier, wait, last, hbefore, hlast⟩ := ih hwaited
      refine ⟨hnone, hverdict, earlier, wait, last, .trans ?_ hbefore, hlast⟩
      exact .tail (.single (.clocked conversation)) (.heard_other hread hevent)

/-- The event that a wait for one came back with. -/
def received : Except HostFault (Option TagEvent) → List TagEvent
  | .ok event => event.toList
  | .error _ => []

/-- A wait for an event does not touch the queue.  It would be a wait like any other if the event
that it comes back with were queued. -/
theorem waited_awaitEvent (deadline : ℕ) (conversation : Conversation σ) :
    (conversation.awaitEvent deadline).1.events = conversation.events ∧
      Waited conversation { (conversation.awaitEvent deadline).1 with
        events := conversation.events ++ received (conversation.awaitEvent deadline).2 } := by
  fun_induction awaitEvent deadline conversation with
  | case1 conversation _ _ next fault hread =>
      rw [received, List.append_nil]
      exact ⟨rfl, .tail (.single (.clocked conversation)) (.missed hread (by simp))⟩
  | case2 conversation _ _ next hread =>
      rw [received, Option.toList_none, List.append_nil]
      exact ⟨rfl, .tail (.single (.clocked conversation)) (.missed hread (by simp))⟩
  | case3 conversation _ _ next frame hread event hevent =>
      exact ⟨rfl, .tail (.single (.clocked conversation)) (.heard_event hread hevent)⟩
  | case4 conversation _ _ next frame hread hevent =>
      rw [received, Option.toList_none, List.append_nil]
      exact ⟨rfl, .tail (.single (.clocked conversation)) (.heard_other hread hevent)⟩
  | case5 conversation _ _ next frame hread hevent _ ih =>
      refine ⟨ih.1, .trans ?_ ih.2⟩
      exact .tail (.single (.clocked conversation)) (.heard_other hread hevent)

end Conversation

end SplitPanel.Host

import SplitPanel.Proofs.Waiting

/-!
# Calls

Whatever is asked of a conversation, it writes reports, waits and pauses, and does nothing else to
its connection.  What each of these steps keeps is therefore kept by every call, however it ends.
-/

namespace SplitPanel.Host

/-- What can be asked of a conversation. -/
inductive Call where
  | learnSize
  | clear (screen : Side)
  | showScreen (screen : Side) (lines : List String)
  | request (asked : Request)
  | nextEvent (wait : ℕ)

namespace Conversation

variable {σ : Type} [Connection σ]

/-- Makes a call, whatever comes of it, and tells the events that it handed out. -/
def call (conversation : Conversation σ) : Call → Conversation σ × List TagEvent
  | .learnSize => (conversation.learnSize.1, [])
  | .clear screen => ((conversation.clear screen).1, [])
  | .showScreen screen lines => ((conversation.showScreen screen lines).1, [])
  | .request asked => ((conversation.request asked).1, [])
  | .nextEvent wait =>
    ((conversation.nextEvent wait).1, received (conversation.nextEvent wait).2)

/-- Makes calls one after the other. -/
def callAll : List Call → Conversation σ → Conversation σ × List TagEvent
  | [], conversation => (conversation, [])
  | call :: rest, conversation =>
    let (next, events) := conversation.call call
    let (last, later) := callAll rest next
    (last, events ++ later)

/-- What one step of a call does to a conversation. -/
inductive Step : Conversation σ → Conversation σ → Prop where
  | wrote (conversation : Conversation σ) (report : Report) :
      Step conversation
        { conversation with connection := (Connection.write report conversation.connection).1 }
  | waited {conversation next : Conversation σ} (hwaited : WaitStep conversation next) :
      Step conversation next
  | paused (conversation : Conversation σ) (time : ℕ) :
      Step conversation
        { conversation with connection := Connection.pause time conversation.connection }

/-- What any number of steps do to a conversation. -/
abbrev Steps : Conversation σ → Conversation σ → Prop :=
  Relation.ReflTransGen Step

theorem Waited.steps {conversation next : Conversation σ} (hwaited : Waited conversation next) :
    Steps conversation next :=
  Relation.ReflTransGen.mono (fun _ _ hstep => .waited hstep) _ _ hwaited

/-- What every step keeps is kept by any number of them. -/
theorem Steps.keep {P : Conversation σ → Prop} {conversation next : Conversation σ}
    (hsteps : Steps conversation next)
    (hstep : ∀ earlier later, Step earlier later → P earlier → P later)
    (hstart : P conversation) : P next := by
  induction hsteps with
  | refl => exact hstart
  | tail _ hlast ih => exact hstep _ _ hlast ih

/-- A request that cannot be written is given up, and one that was written is waited for. -/
theorem request_cases (asked : Request) (conversation : Conversation σ) :
    (∃ next fault,
      Connection.write asked.toFrame.report conversation.connection = (next, .error fault) ∧
      conversation.request asked = ({ conversation with connection := next }, .error fault)) ∨
    ∃ next, Connection.write asked.toFrame.report conversation.connection = (next, .ok ()) ∧
      conversation.request asked =
        { conversation with connection := (Connection.clock next).1 }.awaitResponse asked
          ((Connection.clock next).2 + conversation.timeout) := by
  rcases hwrite : Connection.write asked.toFrame.report conversation.connection with
    ⟨next, fault | _⟩
  · exact .inl ⟨next, fault, rfl, by rw [request, hwrite]⟩
  · exact .inr ⟨next, rfl, by rw [request, hwrite]⟩

theorem steps_request (asked : Request) (conversation : Conversation σ) :
    Steps conversation (conversation.request asked).1 := by
  have hwrote : Steps conversation _ := .single (.wrote conversation asked.toFrame.report)
  rcases conversation.request_cases asked with
    ⟨next, fault, hwrite, hrequest⟩ | ⟨next, hwrite, hrequest⟩ <;> rw [hwrite] at hwrote <;>
    rw [hrequest]
  · exact hwrote
  · exact (hwrote.tail (.waited (.clocked _))).trans (waited_awaitResponse ..).steps

/-- What a request comes back with was read as the response to it. -/
theorem request_eq_ok {asked : Request} {conversation : Conversation σ} {frame : Frame}
    (hrequest : (conversation.request asked).2 = .ok frame) :
    eventOf? frame = none ∧ verdict? asked frame = some (.ok frame) ∧
      ∃ earlier wait next, Steps conversation earlier ∧
        Connection.read wait earlier.connection = (next, .ok (some frame)) := by
  have hwrote : Steps conversation _ := .single (.wrote conversation asked.toFrame.report)
  rcases conversation.request_cases asked with
    ⟨next, fault, -, hfailed⟩ | ⟨next, hwrite, hwaited⟩
  · rw [hfailed] at hrequest
    contradiction
  · rw [hwaited] at hrequest
    rw [hwrite] at hwrote
    obtain ⟨hnone, hverdict, earlier, wait, last, hbefore, hread⟩ := awaitResponse_eq_ok hrequest
    refine ⟨hnone, hverdict, earlier, wait, last, .trans ?_ hbefore.steps, hread⟩
    exact hwrote.tail (.waited (.clocked _))

theorem command_fst (asked : Request) (conversation : Conversation σ) :
    (conversation.command asked).1 = (conversation.request asked).1 := by
  rw [command]
  rcases conversation.request asked with ⟨next, _ | _⟩ <;> rfl

theorem steps_command (asked : Request) (conversation : Conversation σ) :
    Steps conversation (conversation.command asked).1 := by
  rw [command_fst]
  exact steps_request asked conversation

/-- A set-up is a request, and the size in the response to it is noted. -/
theorem learnSize_cases (conversation : Conversation σ) :
    (∃ fault, conversation.learnSize =
      ((conversation.request (.setUp .master)).1, .error fault)) ∨
    ∃ frame size, (conversation.request (.setUp .master)).2 = .ok frame ∧
      reportedSize frame = .ok size ∧
      conversation.learnSize =
        ({ (conversation.request (.setUp .master)).1 with geometry := some size }, .ok size) := by
  rw [learnSize]
  rcases conversation.request (.setUp .master) with ⟨next, fault | frame⟩
  · exact .inl ⟨fault, rfl⟩
  · cases hsize : reportedSize frame with
    | error fault => exact .inl ⟨fault, by simp only [hsize]⟩
    | ok size => exact .inr ⟨frame, size, rfl, hsize, by simp only [hsize]⟩

theorem steps_pauseAfterLine (conversation : Conversation σ) :
    Steps conversation conversation.pauseAfterLine := by
  rw [pauseAfterLine]
  split
  · exact .refl
  · exact .single (.paused conversation conversation.lineDelay)

theorem steps_sendLines (screen : Side) (line : ℕ) (lines : List String)
    (conversation : Conversation σ) :
    Steps conversation (conversation.sendLines screen line lines).1 := by
  induction lines generalizing line conversation with
  | nil => exact .refl
  | cons text rest ih =>
      have hcommand :=
        steps_command (.setLine screen (UInt8.ofNat line) (Text.utf8 text)) conversation
      rw [sendLines]
      rcases hsent : conversation.command
          (.setLine screen (UInt8.ofNat line) (Text.utf8 text)) with ⟨next, _ | _⟩ <;>
        rw [hsent] at hcommand
      · exact hcommand
      · exact (hcommand.trans next.steps_pauseAfterLine).trans (ih ..)

theorem steps_showScreen (screen : Side) (lines : List String) (conversation : Conversation σ) :
    Steps conversation (conversation.showScreen screen lines).1 := by
  have hlines := steps_sendLines screen 0 (lines.take conversation.rows) conversation
  rw [showScreen]
  rcases hsent : conversation.sendLines screen 0 (lines.take conversation.rows) with
    ⟨next, _ | _⟩ <;> rw [hsent] at hlines
  · exact hlines
  · exact hlines.trans (steps_command ..)

/-- Handing out an event takes it from the queue, or waits for it. -/
theorem steps_nextEvent (wait : ℕ) (conversation : Conversation σ) :
    ∃ next events, Steps conversation next ∧
      (conversation.nextEvent wait).1 = { next with events } := by
  cases hevents : conversation.events with
  | nil =>
      rw [nextEvent_of_empty _ hevents]
      have hwaited := waited_awaitEvent ((Connection.clock conversation.connection).2 + wait)
        { conversation with connection := (Connection.clock conversation.connection).1 }
      exact ⟨_, _, .head (.waited (.clocked conversation)) hwaited.2.steps, rfl⟩
  | cons event rest =>
      rw [nextEvent_of_queued _ hevents]
      exact ⟨conversation, rest, .refl, rfl⟩

/-- What every step keeps, the noting of a size too, and what does not depend on the queue, is kept
by every call. -/
theorem call_keeps {P : Conversation σ → Prop}
    (hstep : ∀ earlier later, Step earlier later → P earlier → P later)
    (hlearned : ∀ conversation : Conversation σ, P conversation → P conversation.learnSize.1)
    (hqueue : ∀ (conversation : Conversation σ) events, P conversation →
      P { conversation with events })
    {conversation : Conversation σ} (hstart : P conversation) (calls : List Call) :
    P (conversation.callAll calls).1 := by
  induction calls generalizing conversation with
  | nil => exact hstart
  | cons call rest ih =>
      apply ih
      cases call with
      | learnSize => exact hlearned _ hstart
      | clear screen => exact (steps_command ..).keep hstep hstart
      | showScreen screen lines => exact (steps_showScreen ..).keep hstep hstart
      | request asked => exact (steps_request ..).keep hstep hstart
      | nextEvent wait =>
          obtain ⟨next, events, hsteps, hnext⟩ := steps_nextEvent wait conversation
          change P (conversation.nextEvent wait).1
          rw [hnext]
          exact hqueue _ _ (hsteps.keep hstep hstart)

end Conversation

end SplitPanel.Host

import SplitPanel.Keys.ReportQueue
import SplitPanel.Proofs.HeldKeys
import SplitPanel.Proofs.ReportKinds
import SplitPanel.Proofs.Selecting
import SplitPanel.TagPipeline

/-!
# From strokes to tags

Which events strokes lead to is settled by the keymap and the selector, before anything is sent: a
report that is refused is lost, and changes neither of them.  What is sent is read by the host as
the event it was sent for.  So the tags of the host follow the events that its sink accepted, and
these are the first ones, if the sink takes a number of reports and refuses all others.
-/

namespace SplitPanel

open Keys

/-! ## The events of strokes -/

namespace Keys

namespace Keymap

variable {rows cols : ℕ}

/-- The key that a stroke gives, and what is done with it. -/
def keyStroke? (stroke : Stroke (ℕ × ℕ)) (keymap : Keymap rows cols) : Option (Stroke Key) :=
  (keymap.process stroke.key.1 stroke.key.2 stroke.pressed).2.map fun key => ⟨key, stroke.pressed⟩

/-- The keys that strokes give one after the other. -/
def keyStrokes : List (Stroke (ℕ × ℕ)) → Keymap rows cols → List (Stroke Key)
  | [], _ => []
  | stroke :: later, keymap =>
    (keymap.keyStroke? stroke).toList ++ keyStrokes later (keymap.call stroke)

end Keymap

def KeyEffect.event? : KeyEffect → Option TagEvent
  | .emit event => some event
  | .consumed | .passThrough => none

namespace Selector

/-- The events that strokes lead to, the first one first. -/
def events (strokes : List (Stroke Key)) (selector : Selector) : List TagEvent :=
  (selector.run strokes).2.filterMap KeyEffect.event?

theorem events_append (strokes later : List (Stroke Key)) (selector : Selector) :
    selector.events (strokes ++ later) =
      selector.events strokes ++ (selector.run strokes).1.events later := by
  rw [events, run_append, List.filterMap_append, events, events]

end Selector

namespace EventSource

variable {σ ε : Type} [ReportSink σ ε]

theorem emit_of_slave {source : EventSource σ} (hrole : source.role = .slave) (event : TagEvent) :
    source.emit event = .error .notMaster := by
  rw [emit, send, hrole]
  rfl

theorem emit_of_accepted {source : EventSource σ} (hrole : source.role = .master)
    {event : TagEvent} {sink : σ}
    (haccept : ReportSink.accept event.toFrame.report source.sink = .ok sink) :
    source.emit event = .ok { source with sink } := by
  rw [emit, send, if_pos hrole, haccept]

theorem emit_of_refused {source : EventSource σ} (hrole : source.role = .master)
    {event : TagEvent} {cause : ε}
    (haccept : ReportSink.accept event.toFrame.report source.sink = .error cause) :
    source.emit event = .error (.sink cause) := by
  rw [emit, send, if_pos hrole, haccept]

end EventSource

/-- A sink that takes a number of reports and refuses all others.  In what form it keeps those that
it took, and how many more it has room for, is left open. -/
structure TakesFirst {σ ε : Type} [ReportSink σ ε] (Took : List Report → ℕ → σ → Prop)
    (cause : ε) : Prop where
  accept : ∀ {reports left sink} report, Took reports (left + 1) sink →
    ∃ next, ReportSink.accept report sink = .ok next ∧ Took (reports ++ [report]) left next
  refuse : ∀ {reports sink} report, Took reports 0 sink →
    ReportSink.accept report sink = .error cause

namespace ReportQueue

/-- A queue that holds the reports it took, and has room for so many more. -/
def Took (reports : List Report) (left : ℕ) (queue : ReportQueue) : Prop :=
  queue.reports = reports ∧ queue.room = some (reports.length + left)

theorem took_empty (room : ℕ) : Took [] room (empty (some room)) :=
  ⟨rfl, congrArg some (Nat.zero_add room).symm⟩

theorem takesFirst : TakesFirst Took QueueFull.full where
  accept := by
    rintro _ left queue report ⟨rfl, hroom⟩
    have hleft : queue.hasRoom = true := by
      rw [hasRoom, hroom]
      exact decide_eq_true (Nat.lt_add_of_pos_right left.succ_pos)
    refine ⟨_, if_pos hleft, rfl, ?_⟩
    rw [hroom, List.length_append, List.length_singleton, Nat.add_assoc, Nat.add_comm 1 left]
  refuse := by
    rintro _ queue report ⟨rfl, hroom⟩
    have hfull : queue.hasRoom = false := by
      rw [hasRoom, hroom]
      exact decide_eq_false (lt_irrefl _)
    exact if_neg (Bool.eq_false_iff.mp hfull)

end ReportQueue

end Keys

/-! ## Sending events -/

/-- The half that sends events, and the tags of the host that reads them. -/
structure Uplink (σ : Type) where
  eventSource : EventSource σ
  tags : Host.TagBoard

namespace Uplink

variable {σ ε : Type} [ReportSink σ ε]

/-- Sends an event, which the host follows if it gets it. -/
def send (event : TagEvent) (uplink : Uplink σ) : Uplink σ × Except (SendFault ε) Unit :=
  match uplink.eventSource.emit event with
  | .error cause => (uplink, .error cause)
  | .ok eventSource => ({ eventSource, tags := (uplink.tags.follow event).1 }, .ok ())

/-- Sends events one after the other, with what came of each. -/
def sendAll :
    List TagEvent → Uplink σ → Uplink σ × List (TagEvent × Except (SendFault ε) Unit)
  | [], uplink => (uplink, [])
  | event :: later, uplink =>
    let (next, result) := uplink.send event
    let (last, results) := sendAll later next
    (last, (event, result) :: results)

theorem sendAll_append (events later : List TagEvent) (uplink : Uplink σ) :
    uplink.sendAll (events ++ later) =
      (((uplink.sendAll events).1.sendAll later).1,
        (uplink.sendAll events).2 ++ ((uplink.sendAll events).1.sendAll later).2) := by
  induction events generalizing uplink with
  | nil => rfl
  | cons event events ih =>
      rw [List.cons_append, sendAll, sendAll]
      dsimp only
      rw [ih, List.cons_append]

/-- Where every event is refused, nothing ever changes. -/
theorem sendAll_of_refused {uplink : Uplink σ} {cause : SendFault ε}
    (hrefused : ∀ event, uplink.eventSource.emit event = .error cause) (events : List TagEvent) :
    uplink.sendAll events = (uplink, events.map fun event => (event, .error cause)) := by
  induction events with
  | nil => rfl
  | cons event later ih =>
      have hsend : uplink.send event = (uplink, .error cause) := by rw [send, hrefused]
      rw [sendAll, hsend]
      dsimp only
      rw [ih, List.map_cons]

section MasterHalf

variable {Took : List Report → ℕ → σ → Prop} {cause : ε} {uplink : Uplink σ}
  {reports : List Report} {left : ℕ}

theorem send_of_room (hsink : TakesFirst Took cause)
    (hrole : uplink.eventSource.role = .master)
    (htook : Took reports (left + 1) uplink.eventSource.sink) (event : TagEvent) :
    ∃ next, uplink.send event = (next, .ok ()) ∧ next.eventSource.role = .master ∧
      Took (reports ++ [event.toFrame.report]) left next.eventSource.sink ∧
      next.tags = (uplink.tags.follow event).1 := by
  obtain ⟨sink, haccept, hnext⟩ := hsink.accept event.toFrame.report htook
  refine ⟨⟨{ uplink.eventSource with sink }, _⟩, ?_, hrole, hnext, rfl⟩
  rw [send, EventSource.emit_of_accepted hrole haccept]

/-- As many events are accepted as there is room for, and the tags follow these. -/
theorem sendAll_of_takesFirst (hsink : TakesFirst Took cause)
    (hrole : uplink.eventSource.role = .master)
    (htook : Took reports left uplink.eventSource.sink) (events : List TagEvent) :
    (∃ room, Took (reports ++ (events.take left).map fun event => event.toFrame.report) room
        (uplink.sendAll events).1.eventSource.sink) ∧
      (uplink.sendAll events).1.tags =
        (events.take left).foldl (fun tags event => (tags.follow event).1) uplink.tags ∧
      (uplink.sendAll events).2 = (events.take left).map (fun event => (event, .ok ())) ++
        (events.drop left).map fun event => (event, .error (.sink cause)) := by
  -- every event takes a place, so the room that is left goes down along with the events
  induction events generalizing uplink reports left with
  | nil => simpa [sendAll] using ⟨left, htook⟩
  | cons event later ih =>
      cases left with
      | zero =>
          have hrefused : ∀ event, uplink.eventSource.emit event = .error (.sink cause) :=
            fun event => EventSource.emit_of_refused hrole (hsink.refuse _ htook)
          rw [sendAll_of_refused hrefused]
          simpa using ⟨0, htook⟩
      | succ left =>
          obtain ⟨next, hsend, hnext, htaken, hfollowed⟩ := send_of_room hsink hrole htook event
          obtain ⟨⟨room, hroom⟩, htags, hresults⟩ := ih hnext htaken
          rw [sendAll, hsend, List.take_succ_cons, List.drop_succ_cons, List.map_cons,
            List.map_cons, List.foldl_cons, ← hfollowed]
          refine ⟨⟨room, ?_⟩, htags, ?_⟩
          · rw [List.append_cons]
            exact hroom
          · dsimp only
            rw [hresults, List.cons_append]

end MasterHalf

end Uplink

/-! ## Strokes that go through the pipeline -/

/-- The event that a stroke led to, and what came of it. -/
def Passage.sending? {ε : Type} :
    Passage ε → Option (TagEvent × Except (SendFault ε) Unit)
  | .noKey | .kept _ _ => none
  | .refused _ event cause => some (event, .error cause)
  | .sent _ event _ => some (event, .ok ())

namespace TagPipeline

variable {rows cols : ℕ} {σ ε : Type} [ReportSink σ ε]

/-- Takes strokes one after the other, with how far each of them came. -/
def processAll : List (Stroke (ℕ × ℕ)) → TagPipeline rows cols σ →
    TagPipeline rows cols σ × List (Passage ε)
  | [], pipeline => (pipeline, [])
  | stroke :: later, pipeline =>
    let (next, passage) := pipeline.process stroke.key.1 stroke.key.2 stroke.pressed
    let (last, passages) := processAll later next
    (last, passage :: passages)

/-- A pipeline put together from the parts that do not know of each other. -/
def assemble (keymap : Keymap rows cols) (selector : Selector) (uplink : Uplink σ) :
    TagPipeline rows cols σ where
  keymap := keymap
  selector := selector
  eventSource := uplink.eventSource
  tags := uplink.tags

def uplink (pipeline : TagPipeline rows cols σ) : Uplink σ where
  eventSource := pipeline.eventSource
  tags := pipeline.tags

theorem assemble_uplink (pipeline : TagPipeline rows cols σ) :
    assemble pipeline.keymap pipeline.selector pipeline.uplink = pipeline :=
  rfl

/-- The host reads every report as the event it was sent for. -/
theorem hostReads_toFrame (event : TagEvent) (tags : Host.TagBoard) :
    hostReads event.toFrame.report tags = tags.follow event := by
  rw [hostReads, TagEvent.ofBytes_toFrame]

theorem sendEvent_assemble (key : Key) (event : TagEvent) (keymap : Keymap rows cols)
    (selector : Selector) (uplink : Uplink σ) :
    ∃ passage, sendEvent key event (assemble keymap selector uplink) =
        (assemble keymap selector (uplink.send event).1, passage) ∧
      passage.sending? = some (event, (uplink.send event).2) := by
  rw [Uplink.send, sendEvent, assemble]
  cases uplink.eventSource.emit event with
  | error cause => exact ⟨_, rfl, rfl⟩
  | ok eventSource =>
      dsimp only
      rw [hostReads_toFrame]
      exact ⟨_, rfl, rfl⟩

/-- What one stroke does goes from part to part. -/
theorem process_assemble (stroke : Stroke (ℕ × ℕ)) (keymap : Keymap rows cols)
    (selector : Selector) (uplink : Uplink σ) :
    let keys := (keymap.keyStroke? stroke).toList
    let sent := uplink.sendAll (selector.events keys)
    ∃ passage,
      (assemble keymap selector uplink).process stroke.key.1 stroke.key.2 stroke.pressed =
        (assemble (keymap.call stroke) (selector.run keys).1 sent.1, passage) ∧
      passage.sending?.toList = sent.2 := by
  rw [Keymap.keyStroke?, Keymap.call, process, assemble]
  dsimp only
  rcases keymap.process stroke.key.1 stroke.key.2 stroke.pressed with ⟨next, _ | key⟩
  · exact ⟨_, rfl, rfl⟩
  · rw [Option.map_some, Option.toList_some, Selector.events, Selector.run_singleton]
    dsimp only
    rcases selector.process key stroke.pressed with ⟨chosen, event | _ | _⟩
    · obtain ⟨passage, hsent, hsending⟩ := sendEvent_assemble key event next chosen uplink
      refine ⟨passage, hsent, ?_⟩
      rw [hsending]
      rfl
    · exact ⟨_, rfl, rfl⟩
    · exact ⟨_, rfl, rfl⟩

/-- A pipeline works as its parts do one after the other: the keymap on all strokes, the selector on
all the keys that this gave, and the sending of all the events that this gave. -/
theorem processAll_assemble (strokes : List (Stroke (ℕ × ℕ))) (keymap : Keymap rows cols)
    (selector : Selector) (uplink : Uplink σ) :
    let keys := keymap.keyStrokes strokes
    let sent := uplink.sendAll (selector.events keys)
    ((assemble keymap selector uplink).processAll strokes).1 =
        assemble (keymap.after strokes) (selector.run keys).1 sent.1 ∧
      ((assemble keymap selector uplink).processAll strokes).2.filterMap Passage.sending? =
        sent.2 := by
  induction strokes generalizing keymap selector uplink with
  | nil => exact ⟨rfl, rfl⟩
  | cons stroke later ih =>
      obtain ⟨passage, hprocess, hsending⟩ := process_assemble stroke keymap selector uplink
      rw [processAll, hprocess]
      dsimp only
      rw [Keymap.keyStrokes, Selector.events_append, Selector.run_append, Uplink.sendAll_append]
      obtain ⟨hlast, hpassages⟩ := ih (keymap.call stroke)
        (selector.run (keymap.keyStroke? stroke).toList).1
        (uplink.sendAll (selector.events (keymap.keyStroke? stroke).toList)).1
      refine ⟨hlast, ?_⟩
      rw [List.filterMap_cons, ← hsending, hpassages]
      cases passage.sending? <;> rfl

/-- Whatever strokes there are, the keymap and the selector work as they do where nothing is sent.
On the master half, a sink that takes a number of reports holds in the end what is read as that many
of the first events of the selector.  It refuses all later ones, and the tags of the host are what
the accepted events make of them one after the other.  The slave half refuses every event, and
neither its sink nor the tags ever change. -/
theorem tags_follow_accepted_events (strokes : List (Stroke (ℕ × ℕ)))
    (pipeline : TagPipeline rows cols σ) :
    let keys := pipeline.keymap.keyStrokes strokes
    let events := pipeline.selector.events keys
    let last := (pipeline.processAll strokes).1
    let sendings := (pipeline.processAll strokes).2.filterMap Passage.sending?
    (last.keymap = pipeline.keymap.after strokes ∧
      last.selector = (pipeline.selector.run keys).1) ∧
    (pipeline.eventSource.role = .master →
      ∀ (Took : List Report → ℕ → σ → Prop) (cause : ε), TakesFirst Took cause →
      ∀ room, Took [] room pipeline.eventSource.sink →
        (∃ reports left, Took reports left last.eventSource.sink ∧
          reports.map (fun report => TagEvent.ofBytes report.toList) =
            (events.take room).map fun event => .ok (some event)) ∧
        sendings = (events.take room).map (fun event => (event, .ok ())) ++
          (events.drop room).map (fun event => (event, .error (.sink cause))) ∧
        last.tags =
          (events.take room).foldl (fun tags event => (tags.follow event).1) pipeline.tags) ∧
    (pipeline.eventSource.role = .slave →
      sendings = events.map (fun event => (event, .error .notMaster)) ∧
      last.eventSource = pipeline.eventSource ∧ last.tags = pipeline.tags) := by
  intro keys events last sendings
  obtain ⟨hlast, hsendings⟩ :=
    processAll_assemble strokes pipeline.keymap pipeline.selector pipeline.uplink
  rw [assemble_uplink] at hlast hsendings
  rw [show last = _ from hlast, show sendings = _ from hsendings]
  refine ⟨⟨rfl, rfl⟩, ?_, ?_⟩
  · intro hrole Took cause hsink room hempty
    have hmaster : pipeline.uplink.eventSource.role = .master := hrole
    obtain ⟨⟨left, htook⟩, htags, hresults⟩ :=
      Uplink.sendAll_of_takesFirst hsink hmaster hempty events
    refine ⟨⟨_, left, htook, ?_⟩, hresults, htags⟩
    rw [List.nil_append, List.map_map]
    apply List.map_congr_left
    intro event _
    rw [Function.comp_apply, TagEvent.ofBytes_toFrame]
  · intro hrole
    have hrefused : ∀ event, pipeline.uplink.eventSource.emit event = .error .notMaster :=
      EventSource.emit_of_slave hrole
    rw [Uplink.sendAll_of_refused hrefused]
    exact ⟨rfl, rfl, rfl⟩

/-- A digit picks the tag of a screen, and the report of a step after it finds the queue full. -/
theorem tags_follow_accepted_events_of_full_queue :
    let keymap : Keymap 1 3 := {
      layers := [#v[#v[.key (.tag (.select .slave)), .key (.digit 4),
        .key (.tag (.increment .master))]]]
      triLayer := none
      momentary := 0
      state := 0
      held := Grid.replicate 1 3 none }
    let strokes : List (Stroke (ℕ × ℕ)) :=
      [⟨(0, 0), true⟩, ⟨(0, 0), false⟩, ⟨(0, 1), true⟩, ⟨(0, 1), false⟩, ⟨(0, 2), true⟩]
    let pipeline : Side → TagPipeline 1 3 ReportQueue := fun role => {
      keymap := keymap
      selector := .idle
      eventSource := { role, sink := .empty (some 1) }
      tags := .make 9 }
    Keymap.make keymap.layers none = .ok keymap ∧
      ((pipeline .master).processAll strokes).1.eventSource.sink.reports.map
          (fun report => TagEvent.ofBytes report.toList) = [.ok (some (.setTag .slave 4))] ∧
      ((pipeline .master).processAll strokes).2.filterMap Passage.sending? =
        [(.setTag .slave 4, .ok ()), (.increment .master, .error (.sink .full))] ∧
      ((pipeline .master).processAll strokes).1.tags = { count := 9, master := 0, slave := 4 } ∧
      ((pipeline .slave).processAll strokes).2.filterMap Passage.sending? =
        [(.setTag .slave 4, .error .notMaster), (.increment .master, .error .notMaster)] ∧
      ((pipeline .slave).processAll strokes).1.tags = .make 9 := by
  intro keymap strokes pipeline
  have hevents : ∀ role, (pipeline role).selector.events
      ((pipeline role).keymap.keyStrokes strokes) = [.setTag .slave 4, .increment .master] := by
    intro role
    show Selector.idle.events (keymap.keyStrokes strokes) = _
    decide
  obtain ⟨-, hmaster, -⟩ := tags_follow_accepted_events strokes (pipeline .master)
  obtain ⟨⟨reports, left, ⟨hreports, -⟩, hread⟩, hsent, hfollowed⟩ :=
    hmaster rfl _ _ ReportQueue.takesFirst 1 (ReportQueue.took_empty 1)
  obtain ⟨-, -, hslave⟩ := tags_follow_accepted_events strokes (pipeline .slave)
  obtain ⟨hrefused, -, hkept⟩ := hslave rfl
  rw [hevents] at hread hsent hfollowed hrefused
  rw [← hreports] at hread
  exact ⟨rfl, hread, hsent, hfollowed, hrefused, hkept⟩

end TagPipeline

end SplitPanel

import SplitPanel.Host.TagBoard
import SplitPanel.Keys.EventSource
import SplitPanel.Keys.Keymap

/-!
# From a switch to a tag

A change of a switch goes through the keymap, the selector and the event source of a half; the
host reads every report that its sink accepts, and its tags follow.
-/

namespace SplitPanel

open Keys

/-- Everything a switch change passes on its way to the host's tags. -/
structure TagPipeline (rows cols : Nat) (σ : Type) where
  keymap : Keymap rows cols
  selector : Selector
  eventSource : EventSource σ
  tags : Host.TagBoard

/-- How far a switch change came. -/
inductive Passage (ε : Type) where
  /-- The keymap gave no key. -/
  | noKey
  /-- The selector kept the key, or let it through to be typed. -/
  | kept (key : Key) (outcome : KeyEffect)
  /-- The event was not sent. -/
  | refused (key : Key) (event : TagEvent) (cause : SendFault ε)
  /-- The event was sent, and the host changed the tag of a screen or none. -/
  | sent (key : Key) (event : TagEvent) (changed : Option Side)

namespace TagPipeline

variable {rows cols : Nat} {σ ε : Type} [ReportSink σ ε]

/-- What the host makes of one report. -/
def hostReads (report : Report) (tags : Host.TagBoard) : Host.TagBoard × Option Side :=
  match TagEvent.ofBytes report.toList with
  | .ok (some event) => tags.follow event
  | _ => (tags, none)

/-- Sends an event of the selector and lets the host read it. -/
def sendEvent (key : Key) (event : TagEvent) (pipeline : TagPipeline rows cols σ) :
    TagPipeline rows cols σ × Passage ε :=
  match pipeline.eventSource.emit event with
  | .error cause => (pipeline, .refused key event cause)
  | .ok eventSource =>
    let (tags, changed) := hostReads event.toFrame.report pipeline.tags
    ({ pipeline with eventSource, tags }, .sent key event changed)

/-- Takes one switch change. -/
def process (row col : Nat) (pressed : Bool) (pipeline : TagPipeline rows cols σ) :
    TagPipeline rows cols σ × Passage ε :=
  let (keymap, key?) := pipeline.keymap.process row col pressed
  let pipeline := { pipeline with keymap }
  match key? with
  | none => (pipeline, .noKey)
  | some key =>
    let (selector, outcome) := pipeline.selector.process key pressed
    let pipeline := { pipeline with selector }
    match outcome with
    | .emit event => sendEvent key event pipeline
    | outcome => (pipeline, .kept key outcome)

end TagPipeline

end SplitPanel

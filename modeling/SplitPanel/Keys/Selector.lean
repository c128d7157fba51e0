import SplitPanel.Wire.TagEvent

/-!
# Tag selector

A tag is picked in two steps: a select key names the screen, and the next digit pressed is the
tag.  The digit is swallowed; any other key pressed cancels the selection and types normally.
-/

namespace SplitPanel.Keys

/-- The keys that drive tag events. -/
inductive TagKey where
  | select (screen : Side)
  | increment (screen : Side)
  | decrement (screen : Side)
deriving DecidableEq, Repr

/-- A key as the selector sees it. -/
inductive Key where
  | tag (key : TagKey)
  | digit (value : UInt8)
  | other
deriving DecidableEq, Repr

/-- What becomes of a key event. -/
inductive KeyEffect where
  /-- The event is sent, and the key does nothing else. -/
  | emit (event : TagEvent)
  /-- The key is swallowed. -/
  | consumed
  /-- The key is processed normally. -/
  | passThrough
deriving DecidableEq, Repr

/-- The screen waiting for its digit, if any. -/
structure Selector where
  armed : Option Side
deriving DecidableEq, Repr

namespace Selector

def idle : Selector where
  armed := none

/-- The event of a key pressed while a screen is waiting. -/
def resolve (screen : Side) : Key → KeyEffect
  | .digit tag => if tag ≤ 9 then .emit (.setTag screen tag) else .passThrough
  | _ => .passThrough

/-- Takes one key event.  A select key arms its screen on release as well. -/
def process (key : Key) (pressed : Bool) (selector : Selector) : Selector × KeyEffect :=
  match key with
  | .tag (.select screen) => ({ armed := some screen }, .consumed)
  | .tag (.increment screen) =>
    (selector, if pressed then .emit (.increment screen) else .consumed)
  | .tag (.decrement screen) =>
    (selector, if pressed then .emit (.decrement screen) else .consumed)
  | key =>
    if pressed then
      match selector.armed with
      | none => (selector, .passThrough)
      | some screen => (idle, resolve screen key)
    else
      (selector, .passThrough)

end Selector

end SplitPanel.Keys

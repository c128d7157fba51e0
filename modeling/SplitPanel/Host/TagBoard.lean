import SplitPanel.Wire.TagEvent

/-!
# Tag board

Each screen is on one of `count` tags, numbered from 0; stepping past either end wraps around.
-/

namespace SplitPanel.Host

/-- The number of tags, and the tag each screen is on. -/
structure TagBoard where
  count : UInt8
  master : UInt8
  slave : UInt8
deriving DecidableEq, Repr

namespace TagBoard

/-- Both screens on tag 0.  There is always at least one tag. -/
def make (count : UInt8) : TagBoard where
  count := if count = 0 then 1 else count
  master := 0
  slave := 0

def get (screen : Side) (tags : TagBoard) : UInt8 :=
  match screen with
  | .master => tags.master
  | .slave => tags.slave

def set (screen : Side) (tag : UInt8) (tags : TagBoard) : TagBoard :=
  match screen with
  | .master => { tags with master := tag }
  | .slave => { tags with slave := tag }

/-- The tag some steps up from another, around the end if need be.  The sum may be too large for a
byte. -/
def step (tags : TagBoard) (tag : UInt8) (steps : UInt16) : UInt8 :=
  ((tag.toUInt16 + steps) % tags.count.toUInt16).toUInt8

/-- The tag an event asks for; none if there is no such tag.  A step down is one less than all
the way around. -/
def target? (event : TagEvent) (tags : TagBoard) : Option UInt8 :=
  match event with
  | .setTag _ tag => if tag < tags.count then some tag else none
  | .increment screen => some (tags.step (tags.get screen) 1)
  | .decrement screen => some (tags.step (tags.get screen) (tags.count.toUInt16 - 1))

/-- Does what an event asks for, and says which screen changed its tag. -/
def follow (event : TagEvent) (tags : TagBoard) : TagBoard × Option Side :=
  match tags.target? event with
  | none => (tags, none)
  | some tag =>
    if tag = tags.get event.screen then (tags, none)
    else (tags.set event.screen tag, some event.screen)

/-- One line with both tags. -/
def caption (tags : TagBoard) : String :=
  "Tags: M" ++ toString tags.master.toNat ++ " S" ++ toString tags.slave.toNat

end TagBoard

end SplitPanel.Host

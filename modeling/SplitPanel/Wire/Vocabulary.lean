/-!
# Wire vocabulary

The one-byte codes that reports carry.  Every vocabulary has a writing, `toByte`, and a
reading, `ofByte?`, which knows exactly the bytes that `toByte` produces.
-/

namespace SplitPanel

/-- One half of the keyboard, and the screen on it.  The master half is connected to the host
and answers it; the slave half is reached only through the link. -/
inductive Side where
  | master
  | slave
deriving DecidableEq, Repr

namespace Side

/-- The half with USB power is the master. -/
def ofUsbPresent : Bool → Side
  | true => .master
  | false => .slave

def isMaster (side : Side) : Bool :=
  side = .master

def toByte : Side → UInt8
  | .master => 0
  | .slave => 1

def ofByte? : UInt8 → Option Side
  | 0 => some .master
  | 1 => some .slave
  | _ => none

@[simp]
theorem ofByte?_toByte (side : Side) : ofByte? side.toByte = some side := by
  cases side <;> rfl

theorem ofByte?_eq_some_iff {byte : UInt8} {side : Side} :
    ofByte? byte = some side ↔ byte = side.toByte := by
  constructor
  · unfold ofByte?
    split <;> intro h <;> cases h <;> rfl
  · rintro rfl
    exact ofByte?_toByte side

end Side

/-- First byte of a report from the keyboard. -/
inductive Verdict where
  | success
  | failure
deriving DecidableEq, Repr

namespace Verdict

/-- The code that reports how an operation ended. -/
def ofExcept {ε α : Type} : Except ε α → Verdict
  | .ok _ => .success
  | .error _ => .failure

def isSuccess (code : Verdict) : Bool :=
  code = .success

def toByte : Verdict → UInt8
  | .success => 0
  | .failure => 1

def ofByte? : UInt8 → Option Verdict
  | 0 => some .success
  | 1 => some .failure
  | _ => none

@[simp]
theorem ofByte?_toByte (code : Verdict) : ofByte? code.toByte = some code := by
  cases code <;> rfl

theorem ofByte?_eq_some_iff {byte : UInt8} {code : Verdict} :
    ofByte? byte = some code ↔ byte = code.toByte := by
  constructor
  · unfold ofByte?
    split <;> intro h <;> cases h <;> rfl
  · rintro rfl
    exact ofByte?_toByte code

end Verdict

/-- Second byte of a report from the keyboard: an answer, or something it says on its own. -/
inductive ReportKind where
  | response
  | event
deriving DecidableEq, Repr

namespace ReportKind

def toByte : ReportKind → UInt8
  | .response => 0
  | .event => 1

def ofByte? : UInt8 → Option ReportKind
  | 0 => some .response
  | 1 => some .event
  | _ => none

@[simp]
theorem ofByte?_toByte (kind : ReportKind) : ofByte? kind.toByte = some kind := by
  cases kind <;> rfl

theorem ofByte?_eq_some_iff {byte : UInt8} {kind : ReportKind} :
    ofByte? byte = some kind ↔ byte = kind.toByte := by
  constructor
  · unfold ofByte?
    split <;> intro h <;> cases h <;> rfl
  · rintro rfl
    exact ofByte?_toByte kind

end ReportKind

/-- What the host can ask of a screen. -/
inductive Command where
  | setUp
  | clear
  | setLine
  | present
deriving DecidableEq, Repr

namespace Command

def toByte : Command → UInt8
  | .setUp => 0
  | .clear => 1
  | .setLine => 2
  | .present => 3

def ofByte? : UInt8 → Option Command
  | 0 => some .setUp
  | 1 => some .clear
  | 2 => some .setLine
  | 3 => some .present
  | _ => none

@[simp]
theorem ofByte?_toByte (command : Command) : ofByte? command.toByte = some command := by
  cases command <;> rfl

theorem ofByte?_eq_some_iff {byte : UInt8} {command : Command} :
    ofByte? byte = some command ↔ byte = command.toByte := by
  constructor
  · unfold ofByte?
    split <;> intro h <;> cases h <;> rfl
  · rintro rfl
    exact ofByte?_toByte command

end Command

/-- What a tag event does to a tag. -/
inductive EventCode where
  | setTag
  | increment
  | decrement
deriving DecidableEq, Repr

namespace EventCode

def toByte : EventCode → UInt8
  | .setTag => 0
  | .increment => 1
  | .decrement => 2

def ofByte? : UInt8 → Option EventCode
  | 0 => some .setTag
  | 1 => some .increment
  | 2 => some .decrement
  | _ => none

@[simp]
theorem ofByte?_toByte (id : EventCode) : ofByte? id.toByte = some id := by
  cases id <;> rfl

theorem ofByte?_eq_some_iff {byte : UInt8} {id : EventCode} :
    ofByte? byte = some id ↔ byte = id.toByte := by
  constructor
  · unfold ofByte?
    split <;> intro h <;> cases h <;> rfl
  · rintro rfl
    exact ofByte?_toByte id

end EventCode

end SplitPanel

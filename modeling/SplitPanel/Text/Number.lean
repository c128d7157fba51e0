/-!
# Reading whole numbers

A number is an optional sign and at least one digit.  Digits are read from the left, and the
first one that is none, or that makes the number too large, ends the reading.
-/

namespace SplitPanel.Text

/-- Why a text is no number. -/
inductive NumberFault where
  | empty
  | invalidDigit
  | tooLarge
deriving DecidableEq, Repr

namespace NumberFault

def message : NumberFault → String
  | .empty => "cannot parse integer from empty string"
  | .invalidDigit => "invalid digit found in string"
  | .tooLarge => "number too large to fit in target type"

end NumberFault

/-- The value of a digit in the given base, which is at most 16. -/
def digit? (base : Nat) (c : Char) : Option Nat :=
  let value? :=
    if '0' ≤ c ∧ c ≤ '9' then some (c.toNat - '0'.toNat)
    else if 'a' ≤ c ∧ c ≤ 'f' then some (c.toNat - 'a'.toNat + 10)
    else if 'A' ≤ c ∧ c ≤ 'F' then some (c.toNat - 'A'.toNat + 10)
    else none
  value?.filter (· < base)

/-- Reads digits behind a number that has been read so far. -/
def readDigits (base limit : Nat) : Nat → List Char → Except NumberFault Nat
  | value, [] => .ok value
  | value, c :: rest =>
    match digit? base c with
    | none => .error .invalidDigit
    | some digit =>
      let next := value * base + digit
      if limit < next then .error .tooLarge else readDigits base limit next rest

/-- Reads one or more digits. -/
def readMagnitude (base limit : Nat) : List Char → Except NumberFault Nat
  | [] => .error .invalidDigit
  | digits => readDigits base limit 0 digits

/-- Reads a number up to `limit`, which may have a plus sign. -/
def readNatural (base limit : Nat) : List Char → Except NumberFault Nat
  | [] => .error .empty
  | '+' :: digits => readMagnitude base limit digits
  | digits => readMagnitude base limit digits

/-- The greatest number of 64 bits with sign. -/
abbrev maxInteger : Nat := 0x7FFFFFFFFFFFFFFF

/-- Reads a decimal number of 64 bits with sign. -/
def readInteger : List Char → Except NumberFault Int
  | '-' :: digits => (readMagnitude 10 (maxInteger + 1) digits).map fun value => -(value : Int)
  | text => (readNatural 10 maxInteger text).map fun value => (value : Int)

end SplitPanel.Text

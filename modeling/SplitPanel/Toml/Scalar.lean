import SplitPanel.Text.Number
import SplitPanel.Toml.Reader
import SplitPanel.Toml.Value

/-!
# Unquoted scalars

Numbers, truth values, dates and times stand as one word; only between a date and a time there
may be a space.
-/

namespace SplitPanel.Toml

/-! ## Numbers -/

/-- Digits without the underscores between them; each has a digit on both sides. -/
def ungrouped? (isDigit : Char → Bool) : List Char → Option (List Char)
  | [] => none
  | [c] => if isDigit c then some [c] else none
  | c :: '_' :: rest => if isDigit c then (ungrouped? isDigit rest).map (c :: ·) else none
  | c :: next :: rest =>
    if isDigit c then (ungrouped? isDigit (next :: rest)).map (c :: ·) else none

/-- The digits of a decimal number, which has no leading zeros. -/
def wholeDigits? (word : List Char) : Option (List Char) := do
  let digits ← ungrouped? Char.isDigit word
  if 1 < digits.length ∧ digits.head? = some '0' then none else some digits

/-- The sign of a word and what follows it. -/
def splitSign : List Char → List Char × List Char
  | '+' :: rest => (['+'], rest)
  | '-' :: rest => (['-'], rest)
  | word => ([], word)

/-- A number in another base than ten. -/
def based? (base : Nat) (word : List Char) : Option Int := do
  let digits ← ungrouped? (fun c => (Text.digit? base c).isSome) word
  let value ← (Text.readMagnitude base Text.maxInteger digits).toOption
  return (value : Int)

def integer? : List Char → Option Int
  | '0' :: 'x' :: digits => based? 16 digits
  | '0' :: 'o' :: digits => based? 8 digits
  | '0' :: 'b' :: digits => based? 2 digits
  | word => do
    let (sign, digits) := splitSign word
    (Text.readInteger (sign ++ (← wholeDigits? digits))).toOption

/-- The value of digits. -/
def ofDigits (digits : List Char) : Nat :=
  digits.foldl (fun value c => value * 10 + (c.toNat - '0'.toNat)) 0

/-- The least number too large for a double. -/
def doubleLimit : Nat := Nat.pow 2 1024 - Nat.pow 2 970

/-- Whether digits, with the point moved right by `shift`, are too large for a double. -/
def tooLargeForDouble (digits : List Char) (shift : Int) : Bool :=
  let value := ofDigits digits
  if shift < 0 then
    let places := (-shift).toNat
    places ≤ digits.length && doubleLimit * Nat.pow 10 places ≤ value
  else
    doubleLimit ≤ value * Nat.pow 10 (min shift.toNat 400)

/-- The digits behind a mark, if the word has that mark. -/
def marked? (word : List Char) : Option (List Char) :=
  match word with
  | [] => some []
  | _ :: digits => ungrouped? Char.isDigit digits

/-- Whether a word is a number with a fraction or an exponent, or one that is not finite. -/
def isFloat (word : List Char) : Bool :=
  let (sign, number) := splitSign word
  number = ['i', 'n', 'f'] || number = ['n', 'a', 'n'] ||
  (let mantissa := number.takeWhile fun c => c ≠ 'e' && c ≠ 'E'
    let exponent := number.dropWhile fun c => c ≠ 'e' && c ≠ 'E'
    let whole := mantissa.takeWhile (· ≠ '.')
    let fraction := mantissa.dropWhile (· ≠ '.')
    let (exponentSign, power) := splitSign (exponent.drop 1)
    match wholeDigits? whole, marked? fraction, marked? (exponent.take 1 ++ power) with
    | some whole, some fraction, some power =>
      let size : Int := ofDigits power
      let shift := (if exponentSign = ['-'] then -size else size) - fraction.length
      (!fraction.isEmpty || !power.isEmpty) &&
        (sign = ['-'] || !tooLargeForDouble (whole ++ fraction) shift)
    | _, _, _ => false)

/-! ## Dates and times -/

/-- Whether a word is digits with a value in a range. -/
def isNumberIn (low high : Nat) (word : List Char) : Bool :=
  word.all Char.isDigit && low ≤ ofDigits word && ofDigits word ≤ high

def isLeapYear (year : Nat) : Bool :=
  year % 4 = 0 && (year % 100 ≠ 0 || year % 400 = 0)

def daysIn (year month : Nat) : Nat :=
  if month = 2 then (if isLeapYear year then 29 else 28)
  else if month ∈ [4, 6, 9, 11] then 30 else 31

def isDate : List Char → Bool
  | [y₁, y₂, y₃, y₄, '-', m₁, m₂, '-', d₁, d₂] =>
    isNumberIn 0 9999 [y₁, y₂, y₃, y₄] && isNumberIn 1 12 [m₁, m₂] &&
      isNumberIn 1 (daysIn (ofDigits [y₁, y₂, y₃, y₄]) (ofDigits [m₁, m₂])) [d₁, d₂]
  | _ => false

/-- What follows a time of day. -/
def afterTime? : List Char → Option (List Char)
  | h₁ :: h₂ :: ':' :: m₁ :: m₂ :: ':' :: s₁ :: s₂ :: rest =>
    if isNumberIn 0 23 [h₁, h₂] && isNumberIn 0 59 [m₁, m₂] && isNumberIn 0 60 [s₁, s₂] then
      match rest with
      | '.' :: c :: more => if c.isDigit then some (more.dropWhile Char.isDigit) else none
      | rest => some rest
    else
      none
  | _ => none

def isTime (word : List Char) : Bool :=
  afterTime? word = some []

def isOffset : List Char → Bool
  | [] => true
  | [c] => c = 'Z' || c = 'z'
  | [sign, h₁, h₂, ':', m₁, m₂] =>
    (sign = '+' || sign = '-') && isNumberIn 0 23 [h₁, h₂] && isNumberIn 0 59 [m₁, m₂]
  | _ => false

/-- Whether a word is what may follow a date: a time, perhaps with an offset. -/
def isDatedTime (word : List Char) : Bool :=
  match afterTime? word with
  | some offset => isOffset offset
  | none => false

/-- Whether a text is a date, a time, or a date and a time.  Between a date and a time there is a
letter or a space. -/
def isDateTime (text : List Char) : Bool :=
  isDate text || isTime text ||
  match text.drop 10 with
  | mark :: time =>
    (mark = 'T' || mark = 't' || mark = ' ') && isDate (text.take 10) && isDatedTime time
  | [] => false

/-! ## Words -/

/-- What a word means. -/
def ofWord? (word : List Char) : Option Value :=
  if word = "true".toList then some (.boolean true)
  else if word = "false".toList then some (.boolean false)
  else if isDateTime word then some (.dateTime (String.ofList word))
  else if isFloat word then some (.float (String.ofList word))
  else (integer? word).map .integer

def isWordChar (c : Char) : Bool :=
  c.isAlphanum || c = '+' || c = '-' || c = '_' || c = '.' || c = ':'

/-- A scalar without quotes. -/
def scalar : Reader Value := fun text =>
  let word := text.takeWhile isWordChar
  match text.dropWhile isWordChar with
  | ' ' :: c :: rest =>
    if isDate word && c.isDigit then
      let both := word ++ ' ' :: (c :: rest).takeWhile isWordChar
      if isDateTime both then
        some (.dateTime (String.ofList both), (c :: rest).dropWhile isWordChar)
      else
        none
    else
      (ofWord? word).map (·, ' ' :: c :: rest)
  | rest => (ofWord? word).map (·, rest)

end SplitPanel.Toml

/-!
# Character displays

A display takes characters one at a time, at a cursor of its own.  Drawing stops at the first
character it refuses; what it took before stays.
-/

namespace SplitPanel.Screen

/-- Why a display refused a character. -/
inductive DisplayFault where
  | communication
  | notInitialized
  | bufferOverflow
deriving DecidableEq, Repr

/-- The character that moves the cursor to the start of the next row. -/
def lineBreak : UInt8 := 0x0A

/-- Something characters can be written to. -/
class Display (δ : Type) where
  /-- Writes one character; a refused one changes nothing. -/
  put : UInt8 → δ → Except DisplayFault δ

namespace Display

variable {δ : Type} [Display δ]

/-- Writes characters up to the first that is refused. -/
def write : List UInt8 → δ → δ × Except DisplayFault Unit
  | [], display => (display, .ok ())
  | c :: rest, display =>
    match put c display with
    | .ok next => write rest next
    | .error e => (display, .error e)

/-- Writes a text, which ends at its first zero byte. -/
def writeText (text : List UInt8) (display : δ) : δ × Except DisplayFault Unit :=
  write (text.takeWhile (· != 0)) display

/-- Writes a text and a line break. -/
def writeRow (text : List UInt8) (display : δ) : δ × Except DisplayFault Unit :=
  match writeText text display with
  | (written, .ok ()) => write [lineBreak] written
  | failed => failed

end Display

end SplitPanel.Screen

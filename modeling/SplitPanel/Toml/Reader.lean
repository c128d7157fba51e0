/-!
# Readers

A reader takes a value off the front of a text, or declines.  Beside the ways to repeat one, this
module has the readers for what may stand between values: blanks, comments and ends of line.
-/

namespace SplitPanel.Toml

/-- What was read, and the rest of the text; nothing if the text does not start that way. -/
abbrev Reader (α : Type) : Type := List Char → Option (α × List Char)

/-- Reads as often as the reader accepts, and takes something off, in a row. -/
def many {α : Type} (item : Reader α) (text : List Char) : List α × List Char :=
  match item text with
  | none => ([], text)
  | some (a, rest) =>
    if rest.length < text.length then
      let (more, rest) := many item rest
      (a :: more, rest)
    else
      ([], text)
termination_by text.length

/-- One expected character. -/
def expect (c : Char) : Reader Unit
  | first :: rest => if first = c then some ((), rest) else none
  | [] => none

def isBlank (c : Char) : Bool :=
  c = ' ' || c = '\t'

def skipBlanks (text : List Char) : List Char :=
  text.dropWhile isBlank

/-- Whether a character can stand as it is: every one but the controls, except the tab. -/
def isPlain (c : Char) : Bool :=
  c = '\t' || (' ' ≤ c && c ≠ '\x7f')

/-- A line feed, with or without a carriage return. -/
def lineEnd : Reader Unit
  | '\n' :: rest => some ((), rest)
  | '\r' :: '\n' :: rest => some ((), rest)
  | _ => none

def skipComment : List Char → List Char
  | '#' :: rest => rest.dropWhile isPlain
  | text => text

/-- The rest of a line on which nothing more is said. -/
def restOfLine : Reader Unit := fun text =>
  match skipComment (skipBlanks text) with
  | [] => some ((), [])
  | rest => lineEnd rest

/-- A blank, an end of line, or a comment with its end of line. -/
def gap : Reader Unit
  | ' ' :: rest => some ((), rest)
  | '\t' :: rest => some ((), rest)
  | text => lineEnd (skipComment text)

/-- Skips everything that may stand between the items of an array. -/
def skipGaps (text : List Char) : List Char :=
  (many gap text).2

end SplitPanel.Toml

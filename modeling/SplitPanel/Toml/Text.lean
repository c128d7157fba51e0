import SplitPanel.Text.Number
import SplitPanel.Toml.Reader

/-!
# Quoted texts

A text stands between double quotes, with escapes, or between single ones, as it is.  Three
quotes on both sides let it run over lines; a first end of line is then dropped, and up to two
quotes may stand right before the closing ones.
-/

namespace SplitPanel.Toml

def quote : Char := '\x22'

def apostrophe : Char := '\x27'

/-- A character by its code point in `digits` hexadecimal digits. -/
def escapedCodePoint (digits : Nat) : Reader (List Char) := fun text =>
  let written := text.take digits
  if written.length = digits then
    match SplitPanel.Text.readDigits 16 0x10FFFF 0 written with
    | .ok value =>
      if value.isValidChar then some ([Char.ofNat value], text.drop digits) else none
    | .error _ => none
  else
    none

/-- A character behind a backslash. -/
def escaped : Reader (List Char)
  | 'b' :: rest => some (['\x08'], rest)
  | 't' :: rest => some (['\t'], rest)
  | 'n' :: rest => some (['\n'], rest)
  | 'f' :: rest => some (['\x0c'], rest)
  | 'r' :: rest => some (['\r'], rest)
  | '\x22' :: rest => some ([quote], rest)
  | '\\' :: rest => some (['\\'], rest)
  | 'u' :: rest => escapedCodePoint 4 rest
  | 'U' :: rest => escapedCodePoint 8 rest
  | _ => none

/-- The next piece of a text on one line between double quotes. -/
def basicPiece : Reader (List Char)
  | '\\' :: rest => escaped rest
  | c :: rest => if isPlain c && c ≠ quote then some ([c], rest) else none
  | [] => none

/-- The next piece of a text on one line between single quotes. -/
def literalPiece : Reader (List Char)
  | c :: rest => if isPlain c && c ≠ apostrophe then some ([c], rest) else none
  | [] => none

/-- A text on one line, up to its closing quote. -/
def closedBy (delimiter : Char) (piece : Reader (List Char)) : Reader String := fun text => do
  let (pieces, rest) := many piece text
  let ((), rest) ← expect delimiter rest
  return (String.ofList pieces.flatten, rest)

/-- A text on one line. -/
def lineText : Reader String
  | '\x22' :: rest => closedBy quote basicPiece rest
  | '\x27' :: rest => closedBy apostrophe literalPiece rest
  | _ => none

/-- One or two quotes, which do not close a text that runs over lines. -/
def innerQuotes (delimiter : Char) : Reader (List Char) := fun text =>
  let run := text.takeWhile (· = delimiter)
  if 0 < run.length ∧ run.length < 3 then some (run, text.drop run.length) else none

/-- Three quotes, with up to two more before them that belong to the text. -/
def closingQuotes (delimiter : Char) : Reader (List Char) := fun text =>
  let run := text.takeWhile (· = delimiter)
  if 3 ≤ run.length ∧ run.length ≤ 5 then some (run.drop 3, text.drop run.length) else none

/-- A line feed, however the line ended. -/
def lineFeed : Reader (List Char) := fun text =>
  (lineEnd text).map fun (_, rest) => (['\n'], rest)

/-- The end of a line behind a backslash is dropped, with all blanks and empty lines that
follow. -/
def continuation : Reader (List Char) := fun text =>
  let blankOrEnd : Reader Unit
    | ' ' :: rest => some ((), rest)
    | '\t' :: rest => some ((), rest)
    | rest => lineEnd rest
  (lineEnd (skipBlanks text)).map fun (_, rest) => ([], (many blankOrEnd rest).2)

/-- The next piece of a text over lines between double quotes. -/
def basicLinesPiece : Reader (List Char)
  | '\\' :: rest => (escaped rest).or (continuation rest)
  | text => ((basicPiece text).or (lineFeed text)).or (innerQuotes quote text)

/-- The next piece of a text over lines between single quotes. -/
def literalLinesPiece : Reader (List Char) := fun text =>
  ((literalPiece text).or (lineFeed text)).or (innerQuotes apostrophe text)

/-- A text over lines, from behind its opening quotes. -/
def linesClosedBy (delimiter : Char) (piece : Reader (List Char)) : Reader String := fun text => do
  let body := ((lineEnd text).map Prod.snd).getD text
  let (pieces, rest) := many piece body
  let (last, rest) ← closingQuotes delimiter rest
  return (String.ofList (pieces.flatten ++ last), rest)

/-- Any quoted text. -/
def quotedText : Reader String
  | '\x22' :: '\x22' :: '\x22' :: rest => linesClosedBy quote basicLinesPiece rest
  | '\x27' :: '\x27' :: '\x27' :: rest => linesClosedBy apostrophe literalLinesPiece rest
  | text => lineText text

end SplitPanel.Toml

import SplitPanel.Text.Bytes

/-!
# Refused keyboard descriptions

What can be wrong with a keyboard description, and the box in which it is reported.
-/

namespace SplitPanel.Board

/-- The sections a keyboard description has to have. -/
inductive Section where
  | display
  | split
  | usb
  | layers
deriving DecidableEq, Repr

namespace Section

def name : Section → String
  | .display => "display"
  | .split => "split"
  | .usb => "usb"
  | .layers => "layers"

/-- All sections, in the order they are looked for. -/
def all : List Section :=
  [.display, .split, .usb, .layers]

theorem mem_all (part : Section) : part ∈ all := by
  cases part <;> decide

end Section

/-- What is wrong with an entry. -/
inductive Problem where
  /-- The entry is absent, or has a value of another type. -/
  | missing (part : Section) (key : String)
  | outOfRange (part : Section) (key : String) (low high : Int)
  | noLayers
  | tooManyLayers
deriving DecidableEq, Repr

/-- Why a keyboard description was refused. -/
inductive Refusal where
  | noDescription
  | missingSections (parts : List Section)
  | invalid (problems : List Problem)
deriving DecidableEq, Repr

/-- The name of a section as it stands in its header. -/
def bracketed (part : Section) : String :=
  "[" ++ part.name ++ "]"

namespace Problem

def message : Problem → String
  | .missing part key => bracketed part ++ " missing \x27" ++ key ++ "\x27"
  | .outOfRange part key low high =>
    bracketed part ++ " " ++ key ++ " must be " ++ toString low ++ "-" ++ toString high
  | .noLayers => bracketed .layers ++ " names must list at least one layer"
  | .tooManyLayers => bracketed .layers ++ " at most 32 layers"

end Problem

/-- A text filled up with blanks. -/
def filled (width : Nat) (text : String) : String :=
  String.ofList (text.toList.rightpad width ' ')

/-- The bytes that a line in the box can have before it is cut. -/
def lineRoom : Nat := 60

/-- A line that is too long is cut, with three dots in place of the rest.  A cut inside a character,
which would end the build without a box, is not made. -/
def shortened (line : String) : String :=
  if line.utf8ByteSize ≤ lineRoom then line
  else ((Text.ofUtf8? ((Text.utf8 line).take (lineRoom - 3))).map (· ++ "...")).getD line

/-- A horizontal line of the box, between two corners. -/
def boxLine (left right : String) : String :=
  left ++ String.ofList (List.replicate 66 '═') ++ right

/-- A title above lines, in a box with an empty line before and after it. -/
def boxed (title : String) (lines : List String) : String :=
  "\n".intercalate (
    ["", boxLine "╔" "╗", "║  ERROR: " ++ filled 56 title ++ " ║", boxLine "╠" "╣"] ++
    ["\n".intercalate (lines.map fun line => "║  • " ++ filled 62 (shortened line) ++ " ║")] ++
    [boxLine "╚" "╝", ""])

namespace Refusal

def title : Refusal → String
  | .noDescription => "keyboard.toml not found"
  | .missingSections _ => "Missing required sections in keyboard.toml"
  | .invalid _ => "Invalid keyboard configuration"

def lines : Refusal → List String
  | .noDescription => ["Create one in the oledctrl-firmware directory"]
  | .missingSections parts => parts.map fun part => "Missing " ++ bracketed part ++ " section"
  | .invalid problems => problems.map Problem.message

def message (refusal : Refusal) : String :=
  boxed refusal.title refusal.lines

end Refusal

end SplitPanel.Board

import SplitPanel.Screen.Display
import SplitPanel.Screen.Geometry
import SplitPanel.Text.Bytes
import SplitPanel.Text.Quoted

/-!
# Character grid

The grid a screen is drawn into before it is sent to the panel.  It remembers whether the panel
has yet to be brought up to date.
-/

namespace SplitPanel.Screen

/-- A grid of characters with a cursor, in a buffer of `capacity` cells. -/
structure CharGrid (capacity : Nat) where
  geometry : Geometry
  cells : Vector UInt8 capacity
  cursor : Nat
  /-- Whether the panel is out of date. -/
  dirty : Bool
deriving DecidableEq

namespace CharGrid

variable {capacity : Nat}

/-- A blank grid. -/
def blank (geometry : Geometry) : CharGrid capacity where
  geometry := geometry
  cells := Vector.replicate capacity 0x20
  cursor := 0
  dirty := true

/-- A blank grid that fits its buffer. -/
def make (geometry : Geometry) : Except GeometryFault (CharGrid capacity) := do
  geometry.check capacity
  return blank geometry

/-- Blank every cell and move the cursor home. -/
def clear (grid : CharGrid capacity) : CharGrid capacity :=
  blank grid.geometry

/-- The cells of the grid, row after row. -/
def content (grid : CharGrid capacity) : List UInt8 :=
  grid.cells.toList.take grid.geometry.cells

def line? (grid : CharGrid capacity) (row : UInt8) : Option (List UInt8) :=
  grid.geometry.rowOf? grid.content row

def lines (grid : CharGrid capacity) : List (List UInt8) :=
  grid.geometry.rowsOf grid.content

/-- Move the cursor to the start of the next row, even past the last one. -/
def breakLine (grid : CharGrid capacity) : CharGrid capacity :=
  let cols := grid.geometry.cols.toNat
  { grid with cursor := (grid.cursor / cols + 1) * cols }

/-- Write one character at the cursor. -/
def putChar (c : UInt8) (grid : CharGrid capacity) : Except DisplayFault (CharGrid capacity) :=
  if c = lineBreak then
    .ok grid.breakLine
  else if grid.geometry.cells ≤ grid.cursor then
    .error .bufferOverflow
  else
    .ok { grid with
      cells := grid.cells.setIfInBounds grid.cursor c
      cursor := grid.cursor + 1
      dirty := true }

instance : Display (CharGrid capacity) where
  put := putChar

/-- Take over the content of another grid if it differs.  The grid is dirty afterwards if it
changed or was dirty before. -/
def adopt (grid source : CharGrid capacity) : CharGrid capacity :=
  if grid.content = source.content then
    grid
  else
    { grid with
      cells := Vector.ofFn fun i =>
        if i.val < grid.geometry.cells then source.cells.get i else grid.cells.get i
      dirty := true }

def cleaned (grid : CharGrid capacity) : CharGrid capacity :=
  { grid with dirty := false }

/-- The rows as quoted texts. -/
def describe (grid : CharGrid capacity) : String :=
  Text.quotedList (grid.lines.map fun line => (Text.ofUtf8? line).getD "<binary>")

end CharGrid

end SplitPanel.Screen

import SplitPanel.Screen.Geometry

/-!
# Screen buffers

A screen is composed line by line in the back buffer and shown by copying the whole back buffer
to the front buffer, so that what is drawn is never half composed.  A front buffer that starts
with a zero byte holds nothing from the host.
-/

namespace SplitPanel.Screen

/-- The byte that starts a variable. -/
def variableMark : UInt8 := 0x25

/-- The byte of an empty cell. -/
def blankCell : UInt8 := 0x20

/-- Why a line was refused: there is no such row. -/
inductive LineFault where
  | outOfBounds (line rows : UInt8)
deriving DecidableEq, Repr

/-- Front and back buffer of one screen, each with room for `capacity` cells. -/
structure Buffers (capacity : Nat) where
  geometry : Geometry
  frontCells : Vector UInt8 capacity
  backCells : Vector UInt8 capacity
  /-- Whether the front grid holds a variable to expand. -/
  holdsVariable : Bool
  /-- Whether a line was set since the last clear. -/
  composed : Bool
deriving DecidableEq

namespace Buffers

variable {capacity : Nat}

/-- Buffers without content. -/
def cleared (geometry : Geometry) : Buffers capacity where
  geometry := geometry
  frontCells := Vector.replicate capacity 0
  backCells := Vector.replicate capacity blankCell
  holdsVariable := false
  composed := false

/-- Buffers for a grid that fits them. -/
def make (geometry : Geometry) : Except GeometryFault (Buffers capacity) := do
  geometry.check capacity
  return cleared geometry

/-- Drop all content. -/
def clear (buffers : Buffers capacity) : Buffers capacity :=
  cleared buffers.geometry

/-- The cells with one row replaced: the text cut to the row, the rest of the row blank. -/
def withRow (geometry : Geometry) (line : UInt8) (text : List UInt8)
    (cells : Vector UInt8 capacity) : Vector UInt8 capacity :=
  let start := line.toNat * geometry.cols.toNat
  Vector.ofFn fun i =>
    if start ≤ i.val ∧ i.val < start + geometry.cols.toNat then text.getD (i.val - start) blankCell
    else cells.get i

/-- Replace one row of the back buffer. -/
def composeRow (line : UInt8) (text : List UInt8) (buffers : Buffers capacity) :
    Except LineFault (Buffers capacity) :=
  if line < buffers.geometry.rows then
    .ok { buffers with
      backCells := withRow buffers.geometry line text buffers.backCells
      composed := true }
  else
    .error (.outOfBounds line buffers.geometry.rows)

/-- The back grid, row after row. -/
def back (buffers : Buffers capacity) : List UInt8 :=
  buffers.backCells.toList.take buffers.geometry.cells

/-- The front grid, row after row. -/
def front (buffers : Buffers capacity) : List UInt8 :=
  buffers.frontCells.toList.take buffers.geometry.cells

/-- Show the back buffer.  While no line has been set there is nothing to show, and the front
buffer stays empty instead of becoming blank. -/
def present (buffers : Buffers capacity) : Buffers capacity :=
  if buffers.composed then
    { buffers with
      frontCells := Vector.ofFn fun i =>
        if i.val < buffers.geometry.cells then buffers.backCells.get i else 0
      holdsVariable := buffers.back.contains variableMark }
  else
    { buffers with frontCells := Vector.replicate capacity 0, holdsVariable := false }

/-- Whether the host has put something on the screen. -/
def isFilled (buffers : Buffers capacity) : Bool :=
  match buffers.frontCells.toList with
  | [] => false
  | first :: _ => first != 0

def frontRow? (buffers : Buffers capacity) (row : UInt8) : Option (List UInt8) :=
  buffers.geometry.rowOf? buffers.front row

def backRow? (buffers : Buffers capacity) (row : UInt8) : Option (List UInt8) :=
  buffers.geometry.rowOf? buffers.back row

end Buffers

end SplitPanel.Screen

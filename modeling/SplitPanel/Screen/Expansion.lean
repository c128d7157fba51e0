import SplitPanel.Screen.Buffers
import SplitPanel.Screen.LayerName

/-!
# Variable expansion

The front grid may hold variables, expanded every time it is drawn, so that a line with the
layer name follows the active layer without the host sending anything.

Rows are expanded one by one, each starting at its own first cell: a long name cuts off the rest
of its own row and never shifts the rows below.  A zero cell ends its row; a variable mark right
before a zero cell or the end of the grid ends the whole screen.
-/

namespace SplitPanel.Screen

/-- The selector of the layer name. -/
def layerSelector : UInt8 := 0x6C

/-- Room for one expansion, with a place for its terminator. -/
abbrev expansionRoom : Nat := 32

/-- How much of a name is shown at a column: what is left of the row, but never a whole row. -/
def expansionLimit (cols col : Nat) : Nat :=
  min (cols - col) (min cols expansionRoom - 1)

/-- What a row, or the rest of a screen, became: its bytes, and whether the screen ends there. -/
structure Expanded where
  bytes : List UInt8
  ended : Bool
deriving DecidableEq, Repr

namespace Expanded

def prepend (shown : List UInt8) (expanded : Expanded) : Expanded :=
  { expanded with bytes := shown ++ expanded.bytes }

end Expanded

/-- Expands one row from column `col` on, given all cells of the grid from there. -/
def expandRow (name : List UInt8) (cols col : Nat) : List UInt8 → Expanded
  | [] => { bytes := [], ended := decide (col < cols) }
  | cell :: rest =>
    if cols ≤ col ∨ cell = 0 then
      { bytes := [], ended := false }
    else if cell = variableMark then
      match rest with
      | [] => { bytes := [], ended := true }
      | selector :: after =>
        if selector = 0 then
          { bytes := [], ended := true }
        else if selector = layerSelector ∧ name ≠ [] then
          let shown := name.take (expansionLimit cols col)
          (expandRow name cols (col + shown.length) after).prepend shown
        else
          (expandRow name cols (col + 1) (selector :: after)).prepend [cell]
    else
      (expandRow name cols (col + 1) rest).prepend [cell]

/-- Expands `count` rows of a grid, starting with row `row`. -/
def expandRows (name : List UInt8) (cols : Nat) (grid : List UInt8) : Nat → Nat → List UInt8
  | 0, _ => []
  | count + 1, row =>
    let expanded := expandRow name cols 0 (grid.drop (row * cols))
    if expanded.ended then expanded.bytes
    else expanded.bytes ++ expandRows name cols grid count (row + 1)

namespace Buffers

variable {capacity : Nat}

/-- The bytes to draw for the front grid. -/
def render (source : NameSource) (buffers : Buffers capacity) : List UInt8 :=
  if buffers.holdsVariable then
    expandRows source.written buffers.geometry.cols.toNat buffers.front
      buffers.geometry.rows.toNat 0
  else
    buffers.front.takeWhile (· != 0)

end Buffers

end SplitPanel.Screen

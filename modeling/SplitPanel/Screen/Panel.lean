import SplitPanel.Screen.CharGrid

/-!
# Panel

Sending a frame to the panel is slow, so it is done only if the frame differs from the one on the
panel, or if that could not be sent.
-/

namespace SplitPanel.Screen

/-- One text on the panel, by its upper left pixel. -/
structure PanelText where
  x : Nat
  y : Nat
  text : String
deriving DecidableEq, Repr

/-- The pixels from one row of characters to the next. -/
def rowPixels : Nat := 8

/-- The character a byte is shown as. -/
def glyph (byte : UInt8) : Char :=
  if 0x20 ≤ byte ∧ byte ≤ 0x7E then Char.ofNat byte.toNat else '?'

namespace CharGrid

variable {capacity : Nat}

/-- The rows as they are drawn on the panel. -/
def panelTexts (grid : CharGrid capacity) : List PanelText :=
  grid.lines.zipIdx.map fun (line, row) =>
    { x := 0, y := row * rowPixels, text := String.ofList (line.map glyph) }

/-- Brings the panel up to date with a frame: what is shown afterwards, and the grid that was
sent, if one had to be.  A grid that could not be sent stays due. -/
def refresh (shown frame : CharGrid capacity) (succeeds : Bool) :
    CharGrid capacity × Option (CharGrid capacity) :=
  let next := shown.adopt frame
  if next.dirty then (if succeeds then next.cleaned else next, some next)
  else (next, none)

end CharGrid

end SplitPanel.Screen

import SplitPanel.Keys.Debounce
import SplitPanel.Keys.Keymap

/-!
# Scanning

The matrix is sampled row by row.  Every change of a switch goes through the keymap at once, so
that a later change of the same sample already meets the layers an earlier one turned on.
-/

namespace SplitPanel.Keys

/-- A key that was pressed or released. -/
structure KeyEvent where
  key : Key
  pressed : Bool
deriving DecidableEq, Repr

/-- The switches of a half and what they do. -/
structure Scanner (rows cols : Nat) where
  debouncers : Grid rows cols Debouncer
  keymap : Keymap rows cols

/-- What a sample led to. -/
structure Findings where
  keyEvents : List KeyEvent
  /-- Whether a layer was turned on or off, even if it was turned back. -/
  layersChanged : Bool
deriving DecidableEq

/-- A sample without any change. -/
def Findings.nothing : Findings where
  keyEvents := []
  layersChanged := false

namespace Scanner

variable {rows cols : Nat}

/-- All switches open. -/
def start (keymap : Keymap rows cols) : Scanner rows cols where
  debouncers := Grid.replicate rows cols .start
  keymap := keymap

/-- Takes one change of a switch. -/
def takeChange (found : Scanner rows cols × Findings) (change : Change rows cols) :
    Scanner rows cols × Findings :=
  let (scanner, findings) := found
  let (keymap, key) :=
    scanner.keymap.process change.position.row change.position.col change.pressed
  let event := key.map fun key => { key, pressed := change.pressed : KeyEvent }
  ({ scanner with keymap },
    { keyEvents := findings.keyEvents ++ event.toList
      layersChanged := findings.layersChanged || keymap.state != scanner.keymap.state })

/-- Samples the switches of a row. -/
def sampleRow (row : Fin rows) (raw : Vector Bool cols) (now : Nat)
    (scanner : Scanner rows cols) : Scanner rows cols × Findings :=
  let (debouncers, changes) := Keys.sampleRow row raw now scanner.debouncers
  changes.foldl takeChange ({ scanner with debouncers }, .nothing)

end Scanner

end SplitPanel.Keys

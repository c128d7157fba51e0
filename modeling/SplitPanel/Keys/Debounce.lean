import SplitPanel.Keys.Position

/-!
# Debouncing

A switch bounces when it opens or closes.  A debouncer notes when a sample first differs from the
state it has accepted; the first sample a whole window later decides.
-/

namespace SplitPanel.Keys

/-- How long a difference is waited out, in microseconds. -/
def debounceWindow : Nat := 5000

/-- The accepted state of one switch. -/
structure Debouncer where
  pressed : Bool
  /-- When a sample first differed, while that is waited out. -/
  changedAt : Option Nat
deriving DecidableEq, Repr

namespace Debouncer

/-- An open switch. -/
def start : Debouncer where
  pressed := false
  changedAt := none

/-- Takes a sample, with the new state if it is another one now. -/
def sample (raw : Bool) (now : Nat) (debouncer : Debouncer) : Debouncer × Option Bool :=
  match debouncer.changedAt with
  | none =>
    if raw = debouncer.pressed then (debouncer, none)
    else ({ debouncer with changedAt := some now }, none)
  | some since =>
    if now - since < debounceWindow then
      (debouncer, none)
    else if raw = debouncer.pressed then
      ({ debouncer with changedAt := none }, none)
    else
      ({ pressed := raw, changedAt := none }, some raw)

end Debouncer

/-- A switch that has changed. -/
structure Change (rows cols : Nat) where
  position : Position rows cols
  pressed : Bool
deriving DecidableEq, Repr

variable {rows cols : Nat}

/-- Samples the switches of a row, with the changes from left to right. -/
def sampleRow (row : Fin rows) (raw : Vector Bool cols) (now : Nat)
    (debouncers : Grid rows cols Debouncer) :
    Grid rows cols Debouncer × List (Change rows cols) :=
  let sampled (col : Fin cols) := (debouncers[row][col]).sample raw[col] now
  (debouncers.set row (Vector.ofFn fun col => (sampled col).1),
    (List.finRange cols).filterMap fun col =>
      (sampled col).2.map fun pressed => { position := { row, col }, pressed })

end SplitPanel.Keys

/-!
# Usage bars

The statistics screen shows four fractions as bars, each one column short of the screen.
-/

namespace SplitPanel.Host

/-- How much of a total is used, between 0 and 1; nothing of nothing is 0. -/
def ratio (used total : UInt64) : Float32 :=
  if total = 0 then
    0
  else
    let quotient := used.toFloat / total.toFloat
    (if quotient < 0 then 0 else if quotient > 1 then 1 else quotient).toFloat32

/-- The fractions in use. -/
structure Usage where
  cpu : Float32
  memory : Float32
  swap : Float32
  disk : Float32

namespace Usage

/-- The character bars are made of. -/
def barCell : Char := '\x7f'

/-- How many characters of a bar stand for a fraction, rounded to the nearest. -/
def filled (fraction : Float32) (width : Nat) : Nat :=
  min (Float32.ofNat width * fraction).round.toUInt64.toNat width

/-- A label and, in brackets, a bar on a ground of spaces. -/
def bar (label : String) (fraction : Float32) (width : Nat) : String :=
  let count := filled fraction width
  label ++ "[" ++ String.ofList (List.replicate count barCell) ++
    String.ofList (List.replicate (width - count) ' ') ++ "]"

/-- The lines of the statistics screen on a display with `cols` columns. -/
def lines (usage : Usage) (cols : UInt8) : List String :=
  let width := cols.toNat - 7
  [bar "CPU%" usage.cpu width, bar "Mem%" usage.memory width,
    bar "Swap" usage.swap width, bar "Disk" usage.disk width]

theorem filled_zero (fraction : Float32) : filled fraction 0 = 0 :=
  Nat.min_zero _

theorem bar_zero (label : String) (fraction : Float32) : bar label fraction 0 = label ++ "[]" := by
  rw [bar, filled_zero]
  simp [String.append_assoc]

/-- On a display with no room for bars, the lines do not depend on the fractions. -/
theorem lines_of_narrow (usage : Usage) {cols : UInt8} (hcols : cols.toNat ≤ 7) :
    usage.lines cols = ["CPU%[]", "Mem%[]", "Swap[]", "Disk[]"] := by
  rw [lines, Nat.sub_eq_zero_of_le hcols]
  simp only [bar_zero]
  rfl

theorem lines_eq_ite :
    lines = fun usage cols =>
      if cols.toNat ≤ 7 then ["CPU%[]", "Mem%[]", "Swap[]", "Disk[]"] else lines usage cols := by
  funext usage cols
  split
  · next hcols => exact usage.lines_of_narrow hcols
  · rfl

end Usage

end SplitPanel.Host

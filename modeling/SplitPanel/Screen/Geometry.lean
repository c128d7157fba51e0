/-!
# Screen geometry

A screen is a grid of character cells, at most 255 by 255, kept row after row in a buffer of
some capacity.
-/

namespace SplitPanel.Screen

/-- Why a grid cannot be used with a buffer. -/
inductive GeometryFault where
  | zeroDimension
  | tooManyCells
deriving DecidableEq, Repr

/-- The size of a grid. -/
structure Geometry where
  cols : UInt8
  rows : UInt8
deriving DecidableEq, Repr

namespace Geometry

/-- The number of cells. -/
def cells (geometry : Geometry) : Nat :=
  geometry.cols.toNat * geometry.rows.toNat

/-- Whether the grid can be used with a buffer of `capacity` cells.  An empty grid is refused
before one that is too large. -/
def check (geometry : Geometry) (capacity : Nat) : Except GeometryFault Unit :=
  if geometry.cols = 0 ∨ geometry.rows = 0 then
    .error .zeroDimension
  else if capacity < geometry.cells then
    .error .tooManyCells
  else
    .ok ()

/-- One row out of the cells of a whole grid. -/
def rowOf? (geometry : Geometry) (cells : List UInt8) (row : UInt8) : Option (List UInt8) :=
  if row < geometry.rows then
    some ((cells.drop (row.toNat * geometry.cols.toNat)).take geometry.cols.toNat)
  else
    none

/-- All rows of a grid, from the top. -/
def rowsOf (geometry : Geometry) (cells : List UInt8) : List (List UInt8) :=
  (List.range geometry.rows.toNat).map fun row =>
    (cells.drop (row * geometry.cols.toNat)).take geometry.cols.toNat

theorem check_eq_ok_iff {geometry : Geometry} {capacity : Nat} :
    geometry.check capacity = .ok () ↔
      geometry.cols ≠ 0 ∧ geometry.rows ≠ 0 ∧ geometry.cells ≤ capacity := by
  rw [check]
  split
  · rename_i h
    simp only [reduceCtorEq, false_iff]
    rintro ⟨hcols, hrows, -⟩
    exact h.elim hcols hrows
  · rename_i h
    split
    · rename_i hcells
      simp only [reduceCtorEq, false_iff]
      rintro ⟨-, -, hle⟩
      exact absurd hcells (Nat.not_lt.mpr hle)
    · rename_i hcells
      simp only [true_iff]
      exact ⟨fun hcols => h (.inl hcols), fun hrows => h (.inr hrows), Nat.not_lt.mp hcells⟩

end Geometry

end SplitPanel.Screen

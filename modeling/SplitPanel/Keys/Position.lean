/-!
# Switch matrix positions

Everything that is kept per switch lies in a grid with one entry per row and column.
-/

namespace SplitPanel.Keys

/-- A position of a switch matrix. -/
structure Position (rows cols : Nat) where
  row : Fin rows
  col : Fin cols
deriving DecidableEq, Repr

namespace Position

variable {rows cols : Nat}

/-- The position at a row and a column, if the matrix has it. -/
def make? (rows cols row col : Nat) : Option (Position rows cols) :=
  if h : row < rows ∧ col < cols then some ⟨⟨row, h.1⟩, ⟨col, h.2⟩⟩ else none

/-- The row and the column of a position. -/
def place (position : Position rows cols) : Nat × Nat :=
  (position.row, position.col)

theorem place_inj {position other : Position rows cols} :
    position.place = other.place ↔ position = other := by
  constructor
  · intro hplace
    rw [place, place, Prod.mk.injEq] at hplace
    obtain ⟨row, col⟩ := position
    obtain ⟨otherRow, otherCol⟩ := other
    rw [mk.injEq]
    exact ⟨Fin.ext hplace.1, Fin.ext hplace.2⟩
  · rintro rfl
    rfl

theorem place_ne {position other : Position rows cols} (hother : position ≠ other) :
    position.place ≠ other.place :=
  fun hplace => hother (place_inj.mp hplace)

theorem exists_of_inside {row col : Nat} (hinside : row < rows ∧ col < cols) :
    ∃ position : Position rows cols, row = position.place.1 ∧ col = position.place.2 :=
  ⟨⟨⟨row, hinside.1⟩, ⟨col, hinside.2⟩⟩, rfl, rfl⟩

theorem make?_place (position : Position rows cols) :
    make? rows cols position.place.1 position.place.2 = some position :=
  dif_pos ⟨position.row.isLt, position.col.isLt⟩

theorem place_of_make? {row col : Nat} {position : Position rows cols}
    (hmake : make? rows cols row col = some position) : position.place = (row, col) := by
  rw [make?] at hmake
  split at hmake
  · injection hmake with hmake
    rw [← hmake]
    rfl
  · contradiction

end Position

/-- One entry for every position. -/
abbrev Grid (rows cols : Nat) (α : Type) : Type := Vector (Vector α cols) rows

namespace Grid

variable {rows cols : Nat} {α : Type}

def replicate (rows cols : Nat) (a : α) : Grid rows cols α :=
  Vector.replicate rows (Vector.replicate cols a)

def entry (grid : Grid rows cols α) (position : Position rows cols) : α :=
  grid[position.row][position.col]

def put (position : Position rows cols) (a : α) (grid : Grid rows cols α) : Grid rows cols α :=
  grid.set position.row (grid[position.row].set position.col a)

theorem ext_entry {grid other : Grid rows cols α}
    (hentry : ∀ position, grid.entry position = other.entry position) : grid = other := by
  apply Vector.ext
  intro row hrow
  apply Vector.ext
  intro col hcol
  exact hentry ⟨⟨row, hrow⟩, ⟨col, hcol⟩⟩

@[simp]
theorem entry_replicate (a : α) (position : Position rows cols) :
    (replicate rows cols a).entry position = a := by
  simp [entry, replicate]

@[simp]
theorem entry_put_self (position : Position rows cols) (a : α) (grid : Grid rows cols α) :
    (grid.put position a).entry position = a := by
  simp [entry, put]

theorem entry_put_of_ne {position other : Position rows cols} (hother : other ≠ position) (a : α)
    (grid : Grid rows cols α) : (grid.put position a).entry other = grid.entry other := by
  by_cases hrow : other.row = position.row
  · have hcol : position.col.val ≠ other.col.val := by
      intro hcol
      apply hother
      rw [← Position.place_inj, Position.place, Position.place, hrow, hcol]
    simp [entry, put, hrow, hcol]
  · have hrows : position.row.val ≠ other.row.val := fun hrows => hrow (Fin.ext hrows.symm)
    simp [entry, put, hrows]

end Grid

end SplitPanel.Keys

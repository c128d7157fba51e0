import Mathlib.Data.List.Basic
import Mathlib.Order.Lattice
import Mathlib.Tactic.Ring
import SplitPanel.Screen.Expansion

/-!
# Expansion row by row

A variable takes two cells of the grid and at least one column of the screen, so a row that is
expanded reads at most twice its own cells.  Every row but the last therefore comes out at its
full width, wherever the rows above it ended reading, and what follows it is expanded as if it
stood alone.  Cells without a variable, or without a name to put in, are drawn as they are.
-/

namespace SplitPanel.Screen

variable (name : List UInt8) {cols : ℕ}

/-! ## The cells of a row -/

theorem expandRow_of_full {col : ℕ} (hfull : cols ≤ col) (cells : List UInt8) :
    expandRow name cols col cells = { bytes := [], ended := false } := by
  cases cells with
  | nil => simp [expandRow, hfull]
  | cons cell rest => simp [expandRow.eq_def, hfull]

theorem expandRow_zero (col : ℕ) (rest : List UInt8) :
    expandRow name cols col (0 :: rest) = { bytes := [], ended := false } := by
  rw [expandRow.eq_def]
  exact if_pos (.inr rfl)

section

variable {col : ℕ} (hcol : col < cols)
include hcol

theorem expandRow_cell {cell : UInt8} (hzero : cell ≠ 0) (hmark : cell ≠ variableMark)
    (rest : List UInt8) :
    expandRow name cols col (cell :: rest) =
      (expandRow name cols (col + 1) rest).prepend [cell] := by
  rw [expandRow.eq_def]
  simp only [Nat.not_le.mpr hcol, hzero, hmark, or_self, if_false]

/-- A mark without a selector ends the screen. -/
theorem expandRow_mark_alone {rest : List UInt8} (hrest : rest = [] ∨ rest.head? = some 0) :
    expandRow name cols col (variableMark :: rest) = { bytes := [], ended := true } := by
  have hmark : variableMark ≠ 0 := by decide
  rw [expandRow.eq_def]
  cases rest with
  | nil => simp only [Nat.not_le.mpr hcol, hmark, or_self, if_false, if_true]
  | cons selector after =>
      have hselector : selector = 0 := by simpa using hrest
      simp only [Nat.not_le.mpr hcol, hmark, hselector, or_self, if_false, if_true]

theorem expandRow_layer (hname : name ≠ []) (after : List UInt8) :
    expandRow name cols col (variableMark :: layerSelector :: after) =
      (expandRow name cols (col + (name.take (expansionLimit cols col)).length) after).prepend
        (name.take (expansionLimit cols col)) := by
  have hmark : variableMark ≠ 0 := by decide
  have hlayer : layerSelector ≠ 0 := by decide
  rw [expandRow.eq_def]
  simp only [Nat.not_le.mpr hcol, hmark, hlayer, or_self, if_false, if_true]
  exact if_pos ⟨trivial, hname⟩

/-- A mark before any other selector is a cell like the others, and so is one before the layer
selector when there is no name. -/
theorem expandRow_mark {selector : UInt8} (hselector : selector ≠ 0)
    (hother : ¬ (selector = layerSelector ∧ name ≠ [])) (after : List UInt8) :
    expandRow name cols col (variableMark :: selector :: after) =
      (expandRow name cols (col + 1) (selector :: after)).prepend [variableMark] := by
  have hmark : variableMark ≠ 0 := by decide
  rw [expandRow.eq_def]
  simp only [Nat.not_le.mpr hcol, hmark, hselector, or_self, if_false, if_true]
  exact if_neg hother

end

/-! ## Widths -/

theorem length_bytes_prepend (shown : List UInt8) (expanded : Expanded) :
    (expanded.prepend shown).bytes.length = shown.length + expanded.bytes.length :=
  List.length_append

/-- A row never grows over its width, whatever the names in it are. -/
theorem length_expandRow_le (col : ℕ) (cells : List UInt8) :
    (expandRow name cols col cells).bytes.length ≤ cols - col := by
  fun_induction expandRow name cols col cells with
  | case1 | case2 | case3 | case4 => exact Nat.zero_le _
  | case5 col selector after hselector hlayer shown hgo ih =>
      have hshown : shown.length ≤ cols - col :=
        (List.length_take_le _ _).trans (min_le_left _ _)
      rw [length_bytes_prepend]
      omega
  | case6 col selector after hselector hother hgo ih =>
      rw [length_bytes_prepend, List.length_singleton]
      omega
  | case7 col cell rest hgo hmark ih =>
      rw [length_bytes_prepend, List.length_singleton]
      omega

theorem length_expandRows_le (grid : List UInt8) (count row : ℕ) :
    (expandRows name cols grid count row).length ≤ count * cols := by
  induction count generalizing row with
  | zero => exact Nat.zero_le _
  | succ count ih =>
      have hrow : (expandRow name cols 0 (grid.drop (row * cols))).bytes.length ≤ cols :=
        length_expandRow_le name 0 _
      have hbelow := ih (row + 1)
      rw [expandRows, Nat.succ_mul]
      split
      · omega
      · rw [List.length_append]
        omega

/-! ## Rows at their full width -/

/-- A name that is not empty takes at least one column and stays in its row. -/
theorem length_take_expansionLimit {name : List UInt8} {col : ℕ} (hcols : 2 ≤ cols)
    (hcol : col < cols) (hname : name ≠ []) :
    1 ≤ (name.take (expansionLimit cols col)).length ∧
      col + (name.take (expansionLimit cols col)).length ≤ cols := by
  have hpos : 0 < name.length := List.length_pos_iff.mpr hname
  have hroom : 2 ≤ min cols expansionRoom := le_min hcols (by decide)
  rw [List.length_take, expansionLimit]
  omega

theorem Expanded.prepend_complete {expanded : Expanded} {width : ℕ} (shown : List UInt8)
    (h : expanded.ended = false ∧ expanded.bytes.length = width) :
    (expanded.prepend shown).ended = false ∧
      (expanded.prepend shown).bytes.length = shown.length + width := by
  refine ⟨h.1, ?_⟩
  rw [Expanded.prepend, List.length_append, h.2]

/-- With two cells for every column a row comes out at its full width. -/
theorem expandRow_complete {col : ℕ} {cells : List UInt8} (hcols : 2 ≤ cols) (hcol : col ≤ cols)
    (hzero : 0 ∉ cells) (hroom : 2 * (cols - col) ≤ cells.length) :
    (expandRow name cols col cells).ended = false ∧
      (expandRow name cols col cells).bytes.length = cols - col := by
  fun_induction expandRow name cols col cells with
  | case1 col =>
      have hfull : cols - col = 0 := by simpa using hroom
      simpa [hfull] using Nat.le_of_sub_eq_zero hfull
  | case2 col cell rest hend =>
      have hfull : cols ≤ col := by
        rcases hend with hfull | hcell
        · exact hfull
        · simp [hcell] at hzero
      exact ⟨rfl, (Nat.sub_eq_zero_of_le hfull).symm⟩
  | case3 col hgo =>
      rw [List.length_singleton] at hroom
      omega
  | case4 col after hgo => simp at hzero
  | case5 col selector after hselector hlayer shown hgo ih =>
      have hshown : 1 ≤ shown.length ∧ col + shown.length ≤ cols :=
        length_take_expansionLimit hcols (by omega) hlayer.2
      rw [List.length_cons, List.length_cons] at hroom
      have hafter : 0 ∉ after :=
        List.not_mem_of_not_mem_cons (List.not_mem_of_not_mem_cons hzero)
      have hrest := ih hshown.2 hafter (by omega)
      rw [show cols - col = shown.length + (cols - (col + shown.length)) by omega]
      exact Expanded.prepend_complete shown hrest
  | case6 col selector after hselector hlayer hgo ih =>
      rw [List.length_cons] at hroom
      have hrest := ih (by omega) (List.not_mem_of_not_mem_cons hzero) (by omega)
      rw [show cols - col = 1 + (cols - (col + 1)) by omega]
      exact Expanded.prepend_complete [variableMark] hrest
  | case7 col cell rest hgo hmark ih =>
      rw [List.length_cons] at hroom
      have hrest := ih (by omega) (List.not_mem_of_not_mem_cons hzero) (by omega)
      rw [show cols - col = 1 + (cols - (col + 1)) by omega]
      exact Expanded.prepend_complete [cell] hrest

/-- A row that comes to its end is followed by the rows below it. -/
theorem expandRows_succ {grid : List UInt8} {row : ℕ} {shown : Expanded}
    (hshown : expandRow name cols 0 (grid.drop (row * cols)) = shown)
    (hended : shown.ended = false) (count : ℕ) :
    expandRows name cols grid (count + 1) row =
      shown.bytes ++ expandRows name cols grid count (row + 1) := by
  rw [expandRows, hshown]
  simp only [hended, Bool.false_eq_true, if_false]

/-- Rows with a row below them come out at their full width. -/
theorem expandRows_add (hcols : 2 ≤ cols) {grid : List UInt8} (hzero : 0 ∉ grid)
    {above row : ℕ} (hgrid : (row + above + 1) * cols ≤ grid.length) (below : ℕ) :
    ∃ shown, shown.length = above * cols ∧
      expandRows name cols grid (above + below) row =
        shown ++ expandRows name cols grid below (row + above) := by
  induction above generalizing row with
  | zero => exact ⟨[], by simp, by simp⟩
  | succ above ih =>
      have hrow : 2 * (cols - 0) ≤ (grid.drop (row * cols)).length := by
        have hwide : (row + 2) * cols ≤ (row + (above + 1) + 1) * cols :=
          Nat.mul_le_mul_right cols (by omega)
        rw [List.length_drop]
        rw [Nat.add_mul] at hwide
        omega
      have hcells : 0 ∉ grid.drop (row * cols) := fun hmem => hzero (List.mem_of_mem_drop hmem)
      obtain ⟨hended, hlength⟩ :=
        expandRow_complete name hcols (Nat.zero_le cols) hcells hrow
      have hnext : (row + 1 + above + 1) * cols ≤ grid.length := by
        rw [show row + 1 + above + 1 = row + (above + 1) + 1 by omega]
        exact hgrid
      obtain ⟨shown, hshown, hbelow⟩ := ih hnext
      refine ⟨(expandRow name cols 0 (grid.drop (row * cols))).bytes ++ shown, ?_, ?_⟩
      · rw [List.length_append, hlength, hshown, Nat.sub_zero]
        ring
      · rw [show above + 1 + below = above + below + 1 by omega,
          expandRows_succ name rfl hended, hbelow, List.append_assoc,
          show row + 1 + above = row + (above + 1) by omega]

/-- What rows are expanded to depends only on the grid from the first of them on. -/
theorem expandRows_congr {left right : List UInt8} {row : ℕ}
    (heq : left.drop (row * cols) = right.drop (row * cols)) (count : ℕ) :
    expandRows name cols left count row = expandRows name cols right count row := by
  induction count generalizing row with
  | zero => rfl
  | succ count ih =>
      have hnext : left.drop ((row + 1) * cols) = right.drop ((row + 1) * cols) := by
        rw [Nat.succ_mul, ← List.drop_drop, heq, List.drop_drop]
      rw [expandRows, expandRows, heq, ih hnext]

/-! ## Plain cells -/

/-- In plain cells no mark stands before the layer selector; without a name all cells are plain. -/
def Plain (cells : List UInt8) : Prop :=
  name = [] ∨ ¬ [variableMark, layerSelector] <:+: cells

variable {name}

theorem Plain.of_infix {cells part : List UInt8} (hplain : Plain name cells)
    (hpart : part <:+: cells) : Plain name part :=
  hplain.imp_right fun hnone hmark => hnone (hmark.trans hpart)

theorem Plain.tail {cell : UInt8} {rest : List UInt8} (hplain : Plain name (cell :: rest)) :
    Plain name rest :=
  hplain.of_infix (List.suffix_cons cell rest).isInfix

theorem Plain.drop {cells : List UInt8} (hplain : Plain name cells) (count : ℕ) :
    Plain name (cells.drop count) :=
  hplain.of_infix (List.drop_suffix count cells).isInfix

theorem plain_of_no_mark {cells : List UInt8} (hmark : variableMark ∉ cells) :
    Plain name cells :=
  .inr fun hinside => hmark (hinside.subset List.mem_cons_self)

/-- A cell of plain cells is drawn as it is, unless it is a mark and the last one. -/
theorem Plain.expandRow_cons {col : ℕ} {cell : UInt8} {rest : List UInt8}
    (hplain : Plain name (cell :: rest)) (hcol : col < cols) (hzero : 0 ∉ cell :: rest)
    (hlast : cell = variableMark → rest ≠ []) :
    expandRow name cols col (cell :: rest) =
      (expandRow name cols (col + 1) rest).prepend [cell] := by
  by_cases hmark : cell = variableMark
  · subst hmark
    cases rest with
    | nil => exact absurd rfl (hlast rfl)
    | cons selector after =>
        have hselector : selector ≠ 0 := by
          rintro rfl
          simp at hzero
        apply expandRow_mark name hcol hselector
        rintro ⟨rfl, hname⟩
        rcases hplain with hempty | hnone
        · exact hname hempty
        · exact hnone ⟨[], after, rfl⟩
  · have hcell : cell ≠ 0 := by
      rintro rfl
      simp at hzero
    exact expandRow_cell name hcol hcell hmark rest

/-- Plain cells are drawn as they are when the row does not end the grid with a mark. -/
theorem Plain.expandRow_eq {col : ℕ} {cells : List UInt8} (hplain : Plain name cells)
    (hzero : 0 ∉ cells) (hroom : cols - col ≤ cells.length)
    (hlast : cells.length = cols - col → cells.getLast? ≠ some variableMark) :
    expandRow name cols col cells = { bytes := cells.take (cols - col), ended := false } := by
  induction cells generalizing col with
  | nil =>
      have hfull : cols - col = 0 := Nat.le_zero.mp hroom
      rw [expandRow_of_full name (Nat.le_of_sub_eq_zero hfull), List.take_nil]
  | cons cell rest ih =>
      rcases Nat.lt_or_ge col cols with hcol | hfull
      · have hnext : cols - col = cols - (col + 1) + 1 := by omega
        rw [List.length_cons, hnext] at hroom hlast
        have hrest := ih hplain.tail (List.not_mem_of_not_mem_cons hzero)
          (Nat.le_of_succ_le_succ hroom) (by
            intro hlength hmark
            apply hlast (congrArg (· + 1) hlength)
            rw [List.getLast?_cons, hmark]
            rfl)
        have hmark : cell = variableMark → rest ≠ [] := by
          rintro rfl rfl
          exact hlast (Nat.le_antisymm (by simp) hroom) rfl
        rw [hplain.expandRow_cons hcol hzero hmark, hrest, hnext, List.take_succ_cons]
        rfl
      · rw [expandRow_of_full name hfull, Nat.sub_eq_zero_of_le hfull, List.take_zero]

/-- A mark in the last cell of the grid is not drawn. -/
theorem Plain.expandRow_eq_of_last {col : ℕ} {cells : List UInt8}
    (hplain : Plain name (cells ++ [variableMark])) (hzero : 0 ∉ cells ++ [variableMark])
    (hroom : cols - col = cells.length + 1) :
    expandRow name cols col (cells ++ [variableMark]) = { bytes := cells, ended := true } := by
  induction cells generalizing col with
  | nil => exact expandRow_mark_alone name (by omega) (.inl rfl)
  | cons cell rest ih =>
      rw [List.length_cons] at hroom
      rw [List.cons_append] at hplain hzero ⊢
      have hrest : expandRow name cols (col + 1) (rest ++ [variableMark]) = _ :=
        ih hplain.tail (List.not_mem_of_not_mem_cons hzero) (by omega)
      rw [hplain.expandRow_cons (by omega) hzero (by simp), hrest]
      rfl

/-- A grid of plain cells is shown as it is when it does not end with a mark. -/
theorem Plain.expandRows_eq {grid : List UInt8} (hplain : Plain name grid) (hzero : 0 ∉ grid)
    {row count : ℕ} (hgrid : (row + count) * cols ≤ grid.length)
    (hlast : (row + count) * cols = grid.length → grid.getLast? ≠ some variableMark) :
    expandRows name cols grid count row = (grid.drop (row * cols)).take (count * cols) := by
  induction count generalizing row with
  | zero => rw [Nat.zero_mul, List.take_zero, expandRows]
  | succ count ih =>
      rw [show row + (count + 1) = row + 1 + count by omega] at hgrid hlast
      have hwide : (row + 1) * cols ≤ (row + 1 + count) * cols :=
        Nat.mul_le_mul_right cols (Nat.le_add_right _ _)
      have hcells : 0 ∉ grid.drop (row * cols) := fun hmem => hzero (List.mem_of_mem_drop hmem)
      have hroom : cols - 0 ≤ (grid.drop (row * cols)).length := by
        rw [Nat.succ_mul] at hwide
        rw [List.length_drop]
        omega
      have hend : (grid.drop (row * cols)).length = cols - 0 →
          (grid.drop (row * cols)).getLast? ≠ some variableMark := by
        intro hlength hmark
        rw [List.getLast?_drop] at hmark
        split at hmark
        · contradiction
        · apply hlast _ hmark
          rw [List.length_drop] at hlength
          rw [Nat.succ_mul] at hwide
          omega
      rw [expandRows_succ name ((hplain.drop _).expandRow_eq hcells hroom hend) rfl,
        ih hgrid hlast, Nat.sub_zero, Nat.succ_mul row, ← List.drop_drop,
        show (count + 1) * cols = cols + count * cols by ring, List.take_add]

/-- A mark in the last cell is all that is missing when a grid of plain cells is shown. -/
theorem Plain.expandRows_eq_of_last {cells : List UInt8}
    (hplain : Plain name (cells ++ [variableMark])) (hzero : 0 ∉ cells ++ [variableMark])
    {row count : ℕ} (hgrid : (row + count) * cols = cells.length + 1) (hcount : 0 < count) :
    expandRows name cols (cells ++ [variableMark]) count row = cells.drop (row * cols) := by
  induction count generalizing row with
  | zero => contradiction
  | succ count ih =>
      have hcells : row * cols + cols + count * cols = cells.length + 1 := by
        rw [← hgrid]
        ring
      have hcols : 0 < cols := by
        apply Nat.pos_of_ne_zero
        rintro rfl
        contradiction
      have hdrop : (cells ++ [variableMark]).drop (row * cols) =
          cells.drop (row * cols) ++ [variableMark] :=
        List.drop_append_of_le_length (by omega)
      have hlength : (cells.drop (row * cols)).length = cells.length - row * cols :=
        List.length_drop
      have hrest := hplain.drop (row * cols)
      have hnone : 0 ∉ (cells ++ [variableMark]).drop (row * cols) :=
        fun hmem => hzero (List.mem_of_mem_drop hmem)
      rw [hdrop] at hrest hnone
      rcases Nat.eq_zero_or_pos count with rfl | hbelow
      · have hroom : cols - 0 = (cells.drop (row * cols)).length + 1 := by omega
        rw [expandRows, hdrop, hrest.expandRow_eq_of_last hnone hroom]
        rfl
      · have hmore : cols ≤ count * cols := Nat.le_mul_of_pos_left cols hbelow
        have hroom : cols - 0 < (cells.drop (row * cols) ++ [variableMark]).length := by
          rw [List.length_append, List.length_singleton]
          omega
        have hrow := hrest.expandRow_eq hnone hroom.le fun hsame => absurd hsame hroom.ne'
        rw [← hdrop] at hrow
        have hnext : (row + 1 + count) * cols = cells.length + 1 := by
          rw [← hgrid, show row + 1 + count = row + (count + 1) by omega]
        rw [expandRows_succ name hrow rfl, ih hnext hbelow, hdrop, Nat.sub_zero,
          List.take_append_of_le_length (by omega), Nat.succ_mul, ← List.drop_drop,
          List.take_append_drop]

/-! ## Grids without a variable -/

variable (name) in
/-- A grid without a variable is shown as it is. -/
theorem expandRows_of_no_mark {grid : List UInt8} (hzero : 0 ∉ grid)
    (hmark : variableMark ∉ grid) {row count : ℕ} (hgrid : (row + count) * cols ≤ grid.length) :
    expandRows name cols grid count row = (grid.drop (row * cols)).take (count * cols) :=
  (plain_of_no_mark hmark).expandRows_eq hzero hgrid
    fun _ hlast => hmark (List.mem_of_getLast? hlast)

variable (name) in
/-- A grid of zeros is shown as nothing. -/
theorem expandRows_of_zeros {grid : List UInt8} (hzeros : ∀ cell ∈ grid, cell = 0)
    (count row : ℕ) : expandRows name cols grid count row = [] := by
  induction count generalizing row with
  | zero => rfl
  | succ count ih =>
      have hrow : (expandRow name cols 0 (grid.drop (row * cols))).bytes = [] := by
        cases hcells : grid.drop (row * cols) with
        | nil => rw [expandRow]
        | cons cell rest =>
            have hmem : cell ∈ grid.drop (row * cols) := by
              rw [hcells]
              exact List.mem_cons_self
            rw [hzeros cell (List.mem_of_mem_drop hmem), expandRow_zero]
      rw [expandRows, hrow, ih]
      exact ite_self _

end SplitPanel.Screen

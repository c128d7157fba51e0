import Mathlib.Data.List.TakeWhile
import SplitPanel.Proofs.BufferStates
import SplitPanel.Proofs.RowExpansion

/-!
# Rows on the screen

What two screens show from some row on is the same if their front grids are the same from that
row on.  Names of any length in the rows above, cut off or not, do not shift the rows below, and
a screen that holds a variable shows rows without one as a screen that holds none.
-/

namespace SplitPanel.Screen

variable {capacity : ℕ}

/-- The cell at a place in a grid is the cell at its column in its row. -/
theorem getElem?_grid (grid : List UInt8) {cols : ℕ} (hcols : 0 < cols) (place : ℕ) :
    grid[place]? = ((grid.drop (place / cols * cols)).take cols)[place % cols]? := by
  rw [List.getElem?_take, if_pos (Nat.mod_lt place hcols), List.getElem?_drop,
    Nat.div_add_mod']

namespace Buffers

theorem rowOf?_of_lt {geometry : Geometry} {cells : List UInt8} {row : UInt8}
    (hrow : row < geometry.rows) :
    geometry.rowOf? cells row =
      some ((cells.drop (row.toNat * geometry.cols.toNat)).take geometry.cols.toNat) :=
  if_pos hrow

/-- Every place in a grid is in one of its rows. -/
theorem exists_row_of_lt {geometry : Geometry} {place : ℕ} (hplace : place < geometry.cells) :
    ∃ row < geometry.rows, row.toNat = place / geometry.cols.toNat := by
  have hinside : place / geometry.cols.toNat < geometry.rows.toNat :=
    Nat.div_lt_of_lt_mul hplace
  have hbyte : place / geometry.cols.toNat < 256 :=
    lt_trans hinside geometry.rows.toNat_lt
  have hnat : (UInt8.ofNat (place / geometry.cols.toNat)).toNat = place / geometry.cols.toNat := by
    rw [UInt8.toNat_ofNat']
    exact Nat.mod_eq_of_lt hbyte
  refine ⟨UInt8.ofNat (place / geometry.cols.toNat), ?_, hnat⟩
  rw [UInt8.lt_iff_toNat_lt, hnat]
  exact hinside

/-- Two front grids have the same cell at a place whose row is the same in both. -/
theorem getElem?_front_eq {other : ℕ} {left : Buffers capacity} {right : Buffers other}
    (hleft : left.Reachable) (hright : right.Reachable) (hgeometry : left.geometry = right.geometry)
    (hcols : 0 < left.geometry.cols.toNat) {place : ℕ}
    (hrows : ∀ row, row.toNat = place / left.geometry.cols.toNat →
      left.frontRow? row = right.frontRow? row) :
    left.front[place]? = right.front[place]? := by
  by_cases hend : place < left.geometry.cells
  · obtain ⟨row, hinside, hrow⟩ := exists_row_of_lt hend
    have hsame := hrows row hrow
    rw [frontRow?, frontRow?, ← hgeometry, rowOf?_of_lt hinside, rowOf?_of_lt hinside,
      hrow] at hsame
    rw [getElem?_grid left.front hcols, getElem?_grid right.front hcols, Option.some.inj hsame]
  · have hleftEnd : left.front.length ≤ place := by
      rw [hleft.length_front]
      exact Nat.not_lt.mp hend
    have hrightEnd : right.front.length ≤ place := by
      rw [hright.length_front, ← hgeometry]
      exact Nat.not_lt.mp hend
    rw [List.getElem?_eq_none hleftEnd, List.getElem?_eq_none hrightEnd]

/-- Front grids with the same rows from some row on have the same cells from there on. -/
theorem drop_front_eq {other : ℕ} {left : Buffers capacity} {right : Buffers other}
    (hleft : left.Reachable) (hright : right.Reachable) (hgeometry : left.geometry = right.geometry)
    (hcols : 0 < left.geometry.cols.toNat) {row : UInt8}
    (hrows : ∀ below, row ≤ below → left.frontRow? below = right.frontRow? below) :
    left.front.drop (row.toNat * left.geometry.cols.toNat) =
      right.front.drop (row.toNat * left.geometry.cols.toNat) := by
  apply List.ext_getElem?
  intro index
  rw [List.getElem?_drop, List.getElem?_drop]
  apply getElem?_front_eq hleft hright hgeometry hcols
  intro below hbelow
  apply hrows
  rw [UInt8.le_iff_toNat_le, hbelow, Nat.le_div_iff_mul_le hcols]
  exact Nat.le_add_right _ _

/-- Without zeros in the front grid, showing it as it is and expanding it come to the same. -/
theorem render_eq_expandRows {buffers : Buffers capacity} (hreachable : buffers.Reachable)
    (hzero : 0 ∉ buffers.front) (source : NameSource) :
    buffers.render source =
      expandRows source.written buffers.geometry.cols.toNat buffers.front
        buffers.geometry.rows.toNat 0 := by
  have hmark := hreachable.holdsVariable_eq
  rw [render]
  cases hvariable : buffers.holdsVariable with
  | true => rfl
  | false =>
      rw [hvariable] at hmark
      have hplain : variableMark ∉ buffers.front := by
        intro hmem
        rw [← List.contains_iff_mem, ← hmark] at hmem
        contradiction
      have hlength : buffers.front.length =
          buffers.geometry.rows.toNat * buffers.geometry.cols.toNat := by
        rw [hreachable.length_front, Geometry.cells, Nat.mul_comm]
      have hshown : buffers.front.takeWhile (· != 0) = buffers.front := by
        rw [List.takeWhile_eq_self_iff]
        intro byte hmem
        rw [bne_iff_ne]
        rintro rfl
        exact hzero hmem
      have hgrid : (0 + buffers.geometry.rows.toNat) * buffers.geometry.cols.toNat ≤
          buffers.front.length := by rw [Nat.zero_add, hlength]
      rw [expandRows_of_no_mark source.written hzero hplain hgrid, Nat.zero_mul, List.drop_zero,
        ← hlength, List.take_length]
      exact hshown

/-- A screen shows the rows above a row at their full width, and from there on what the grid
from that row on is expanded to. -/
theorem render_split {buffers : Buffers capacity} (hreachable : buffers.Reachable)
    (hcols : 2 ≤ buffers.geometry.cols.toNat) (hzero : 0 ∉ buffers.front) {row : UInt8}
    (hrow : row < buffers.geometry.rows) (source : NameSource) :
    ∃ shown, shown.length = row.toNat * buffers.geometry.cols.toNat ∧
      buffers.render source = shown ++
        expandRows source.written buffers.geometry.cols.toNat buffers.front
          (buffers.geometry.rows.toNat - row.toNat) row.toNat := by
  have hnat : row.toNat < buffers.geometry.rows.toNat := UInt8.lt_iff_toNat_lt.mp hrow
  have hgrid : (0 + row.toNat + 1) * buffers.geometry.cols.toNat ≤ buffers.front.length := by
    rw [hreachable.length_front, Geometry.cells, Nat.mul_comm]
    exact Nat.mul_le_mul_left _ (by omega)
  obtain ⟨shown, hshown, hsplit⟩ := expandRows_add source.written hcols hzero hgrid
    (buffers.geometry.rows.toNat - row.toNat)
  rw [Nat.add_sub_cancel' hnat.le, Nat.zero_add] at hsplit
  exact ⟨shown, hshown, (render_eq_expandRows hreachable hzero source).trans hsplit⟩

/-- What is shown from a row on depends on the cells from that row on alone: not on the rows
above, on the names that are shown there, or on whether there are any. -/
theorem render_drop_eq_of_rows_below {other : ℕ} {left : Buffers capacity}
    {right : Buffers other} (hleft : left.Reachable) (hright : right.Reachable)
    (hgeometry : left.geometry = right.geometry) (hcols : 2 ≤ left.geometry.cols.toNat)
    (hleftZero : 0 ∉ left.front) (hrightZero : 0 ∉ right.front) {row : UInt8}
    (hrow : row < left.geometry.rows)
    (hrows : ∀ below, row ≤ below → left.frontRow? below = right.frontRow? below)
    (source : NameSource) :
    row.toNat * left.geometry.cols.toNat ≤ (left.render source).length ∧
    row.toNat * left.geometry.cols.toNat ≤ (right.render source).length ∧
    (left.render source).drop (row.toNat * left.geometry.cols.toNat) =
      (right.render source).drop (row.toNat * left.geometry.cols.toNat) := by
  obtain ⟨leftShown, hleftShown, hleftSplit⟩ := render_split hleft hcols hleftZero hrow source
  obtain ⟨rightShown, hrightShown, hrightSplit⟩ := render_split hright
    (by rw [← hgeometry]; exact hcols) hrightZero (by rw [← hgeometry]; exact hrow) source
  rw [← hgeometry] at hrightShown hrightSplit
  have hgrid := drop_front_eq hleft hright hgeometry (lt_of_lt_of_le (by decide) hcols) hrows
  have hbelow := expandRows_congr source.written hgrid
    (left.geometry.rows.toNat - row.toNat)
  rw [hleftSplit, hrightSplit]
  refine ⟨?_, ?_, ?_⟩
  · rw [List.length_append, hleftShown]
    exact Nat.le_add_right _ _
  · rw [List.length_append, hrightShown]
    exact Nat.le_add_right _ _
  · rw [List.drop_left' hleftShown, List.drop_left' hrightShown, hbelow]

/-- Two names of one letter make the upper row read into the lower one, which is shown as it is
all the same. -/
theorem render_drop_eq_of_short_names :
    let left : Buffers 8 := {
      geometry := ⟨4, 2⟩
      frontCells := #v[0x25, 0x6C, 0x25, 0x6C, 0x6E, 0x65, 0x78, 0x74]
      backCells := #v[0x25, 0x6C, 0x25, 0x6C, 0x6E, 0x65, 0x78, 0x74]
      holdsVariable := true
      composed := true }
    let right : Buffers 8 := {
      geometry := ⟨4, 2⟩
      frontCells := #v[0x61, 0x62, 0x63, 0x64, 0x6E, 0x65, 0x78, 0x74]
      backCells := #v[0x61, 0x62, 0x63, 0x64, 0x6E, 0x65, 0x78, 0x74]
      holdsVariable := false
      composed := true }
    let source : NameSource := { pieces := [[0x58]], completed := true }
    left.render source = [0x58, 0x58, 0x6E, 0x65, 0x6E, 0x65, 0x78, 0x74] ∧
      (left.render source).drop 4 = (right.render source).drop 4 := by
  intro left right source
  have hmake : Buffers.make ⟨4, 2⟩ = .ok (cleared ⟨4, 2⟩ : Buffers 8) := rfl
  have hlower := (Reachable.make hmake).composeRow
    (composeRow_of_lt [0x6E, 0x65, 0x78, 0x74] (by decide : (1 : UInt8) < 2))
  have hleft : left.Reachable := (hlower.composeRow
    (composeRow_of_lt [0x25, 0x6C, 0x25, 0x6C] (by decide : (0 : UInt8) < 2))).present
  have hright : right.Reachable := (hlower.composeRow
    (composeRow_of_lt [0x61, 0x62, 0x63, 0x64] (by decide : (0 : UInt8) < 2))).present
  have hrows : ∀ below : UInt8, 1 ≤ below → left.frontRow? below = right.frontRow? below := by
    intro below hfrom
    by_cases hinside : below < 2
    · have hlast : below = 1 := by
        apply UInt8.toNat_inj.mp
        exact le_antisymm (Nat.le_of_lt_succ (UInt8.lt_iff_toNat_lt.mp hinside))
          (UInt8.le_iff_toNat_le.mp hfrom)
      rw [hlast]
      decide
    · exact (if_neg hinside).trans (if_neg hinside).symm
  refine ⟨by decide, ?_⟩
  exact (render_drop_eq_of_rows_below hleft hright rfl (by decide) (by decide) (by decide)
    (by decide : (1 : UInt8) < 2) hrows source).2.2

end Buffers

end SplitPanel.Screen

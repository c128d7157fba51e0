import SplitPanel.Proofs.ShownRows

/-!
# What a row is expanded from

A row ends where its columns are filled, not where its cells end.  A name of one letter takes two
cells for one column, and a variable mark in the last cell takes its selector from the next cell,
so a row may read on into the row below it, and show what it finds there.  A row that does not is
shown from its own cells alone.
-/

namespace SplitPanel.Screen

variable (name : List UInt8) {cols : ℕ}

/-! ## One row -/

/-- The cells are all that it takes to expand the row that starts with them. -/
def StandsAlone (cols : ℕ) (cells : List UInt8) : Prop :=
  (expandRow name cols 0 cells).ended = false

instance (cols : ℕ) (cells : List UInt8) : Decidable (StandsAlone name cols cells) :=
  inferInstanceAs (Decidable ((expandRow name cols 0 cells).ended = false))

/-- A row that comes to its end does not look at the cells behind those it has. -/
theorem expandRow_append {col : ℕ} {cells : List UInt8}
    (hended : (expandRow name cols col cells).ended = false) (more : List UInt8) :
    expandRow name cols col (cells ++ more) = expandRow name cols col cells := by
  fun_induction expandRow name cols col cells with
  | case1 col =>
      have hfull : cols ≤ col := by simpa using hended
      rw [List.nil_append, expandRow_of_full name hfull more, Expanded.mk.injEq]
      exact ⟨rfl, hended.symm⟩
  | case2 col cell rest hend =>
      rw [List.cons_append, expandRow.eq_def]
      exact if_pos hend
  | case3 col hgo => contradiction
  | case4 col after hgo => contradiction
  | case5 col selector after hselector hlayer shown hgo ih =>
      have hrest := ih hended
      rw [List.cons_append, List.cons_append, expandRow.eq_def]
      simp only [if_neg hgo, if_true, if_neg hselector, if_pos hlayer]
      rw [hrest]
  | case6 col selector after hselector hlayer hgo ih =>
      have hrest := ih hended
      rw [List.cons_append, List.cons_append, expandRow.eq_def]
      simp only [if_neg hgo, if_true, if_neg hselector, if_neg hlayer]
      rw [← List.cons_append, hrest]
  | case7 col cell rest hgo hmark ih =>
      have hrest := ih hended
      rw [List.cons_append, expandRow.eq_def]
      simp only [if_neg hgo, if_neg hmark]
      rw [hrest]

theorem StandsAlone.length_bytes {cells : List UInt8} (halone : StandsAlone name cols cells)
    (hcols : 2 ≤ cols) (hzero : 0 ∉ cells) :
    (expandRow name cols 0 cells).bytes.length = cols := by
  -- more cells do not change the row, and with enough of them it is known to be complete
  have hzeroMore : 0 ∉ cells ++ List.replicate (2 * cols) blankCell := by
    simp [hzero, blankCell]
  obtain ⟨-, hlength⟩ := expandRow_complete name hcols (Nat.zero_le cols) hzeroMore (by simp)
  rw [expandRow_append name halone, Nat.sub_zero] at hlength
  exact hlength

/-- The cells of two rows are always enough for the first of them. -/
theorem standsAlone_of_two_rows (hcols : 2 ≤ cols) {cells : List UInt8} (hzero : 0 ∉ cells)
    (hlength : 2 * cols ≤ cells.length) : StandsAlone name cols cells :=
  (expandRow_complete name hcols (Nat.zero_le cols) hzero hlength).1

/-- A name of two letters or more takes two columns, if these are left in its row. -/
theorem two_le_length_take_expansionLimit {name : List UInt8} {col : ℕ} (hcols : 3 ≤ cols)
    (hname : 2 ≤ name.length) (hcol : col + 2 ≤ cols) :
    2 ≤ (name.take (expansionLimit cols col)).length := by
  have hroom : 3 ≤ min cols expansionRoom := le_min hcols (by decide)
  rw [List.length_take, expansionLimit]
  omega

theorem getLast?_ne_of_cons {cell byte : UInt8} {rest : List UInt8}
    (hlast : (cell :: rest).getLast? ≠ some byte) : rest.getLast? ≠ some byte := by
  intro hbyte
  apply hlast
  rw [List.getLast?_cons, hbyte]
  rfl

/-- While no name has less than two letters, and the last cell does not start a variable, the
cells last for the columns. -/
theorem ended_expandRow_of_two_letters {name : List UInt8} {col : ℕ} {cells : List UInt8}
    (hcols : 3 ≤ cols) (hname : 2 ≤ name.length) (hzero : 0 ∉ cells)
    (hlength : cols - col ≤ cells.length) (hlast : cells.getLast? ≠ some variableMark) :
    (expandRow name cols col cells).ended = false := by
  fun_induction expandRow name cols col cells with
  | case1 col =>
      have hfull : cols - col = 0 := by simpa using hlength
      simpa using Nat.le_of_sub_eq_zero hfull
  | case2 col cell rest hend => rfl
  | case3 col hgo => exact absurd rfl hlast
  | case4 col after hgo => simp at hzero
  | case5 col selector after hselector hlayer shown hgo ih =>
      rw [List.length_cons, List.length_cons] at hlength
      have hcol : col < cols := by
        rw [not_or, not_le] at hgo
        exact hgo.1
      have hafter : 0 ∉ after :=
        List.not_mem_of_not_mem_cons (List.not_mem_of_not_mem_cons hzero)
      have hlastAfter : after.getLast? ≠ some variableMark :=
        getLast?_ne_of_cons (getLast?_ne_of_cons hlast)
      have hone : 1 ≤ shown.length :=
        (length_take_expansionLimit (by omega) hcol hlayer.2).1
      have htwo : col + 2 ≤ cols → 2 ≤ shown.length :=
        two_le_length_take_expansionLimit hcols hname
      exact ih hafter (by omega) hlastAfter
  | case6 col selector after hselector hlayer hgo ih =>
      rw [List.length_cons] at hlength
      exact ih (List.not_mem_of_not_mem_cons hzero) (by omega) (getLast?_ne_of_cons hlast)
  | case7 col cell rest hgo hmark ih =>
      rw [List.length_cons] at hlength
      exact ih (List.not_mem_of_not_mem_cons hzero) (by omega) (getLast?_ne_of_cons hlast)

/-- With names of two letters or more, only a variable mark in its last cell makes a row read on. -/
theorem standsAlone_of_two_letters {name : List UInt8} {cells : List UInt8} (hcols : 3 ≤ cols)
    (hname : 2 ≤ name.length) (hzero : 0 ∉ cells) (hlength : cols ≤ cells.length)
    (hlast : cells.getLast? ≠ some variableMark) : StandsAlone name cols cells :=
  ended_expandRow_of_two_letters hcols hname hzero hlength hlast

/-- Two names of one letter take all the cells and leave half of the columns. -/
example : ¬ StandsAlone [0x58] 4 [0x25, 0x6C, 0x25, 0x6C] := by decide

/-! ## Several rows -/

/-- A row comes out alike from grids that are alike up to where it has all it takes. -/
theorem expandRow_drop_eq {left right : List UInt8} {start reach : ℕ}
    (hsame : left.take (start + reach) = right.take (start + reach))
    (halone : StandsAlone name cols ((left.drop start).take reach)) :
    expandRow name cols 0 (left.drop start) = expandRow name cols 0 ((left.drop start).take reach) ∧
      expandRow name cols 0 (right.drop start) =
        expandRow name cols 0 ((left.drop start).take reach) := by
  have hcells : (right.drop start).take reach = (left.drop start).take reach := by
    rw [List.take_drop, List.take_drop, hsame]
  constructor
  · have hmore := expandRow_append name halone ((left.drop start).drop reach)
    rwa [List.take_append_drop] at hmore
  · have hmore := expandRow_append name halone ((right.drop start).drop reach)
    rwa [← hcells, List.take_append_drop, hcells] at hmore

/-- Rows come out alike from grids that are alike up to where the last of the rows has all it
takes: every row above that one has all it takes by the end of the row below it. -/
theorem exists_prefix_expandRows (hcols : 2 ≤ cols) {left right : List UInt8} (hzero : 0 ∉ left)
    {above row reach : ℕ} (hreach : cols ≤ reach)
    (hlength : (row + above) * cols + cols ≤ left.length)
    (hsame : left.take ((row + above) * cols + reach) = right.take ((row + above) * cols + reach))
    (halone : StandsAlone name cols ((left.drop ((row + above) * cols)).take reach)) (below : ℕ) :
    ∃ shown, shown.length = (above + 1) * cols ∧
      shown <+: expandRows name cols left (above + below + 1) row ∧
      shown <+: expandRows name cols right (above + below + 1) row := by
  have hcells : ∀ start width, 0 ∉ (left.drop start).take width :=
    fun start width hmem => hzero (List.mem_of_mem_drop (List.mem_of_mem_take hmem))
  induction above generalizing row with
  | zero =>
      obtain ⟨hleft, hright⟩ := expandRow_drop_eq name hsame halone
      have hwidth := halone.length_bytes name hcols (hcells _ _)
      rw [Nat.add_zero] at hleft hright halone hwidth
      refine ⟨_, hwidth.trans (by ring), ?_, ?_⟩
      · rw [expandRows_succ name hleft halone]
        exact List.prefix_append _ _
      · rw [expandRows_succ name hright halone]
        exact List.prefix_append _ _
  | succ above ih =>
      rw [← Nat.add_assoc, Nat.add_right_comm] at hlength hsame halone
      obtain ⟨shown, hshown, hleftBelow, hrightBelow⟩ := ih hlength hsame halone
      have hfar : row * cols + 2 * cols ≤ (row + 1 + above) * cols + cols := by
        rw [show (row + 1 + above) * cols + cols = row * cols + 2 * cols + above * cols by ring]
        exact Nat.le_add_right _ _
      have hrowSame : left.take (row * cols + 2 * cols) = right.take (row * cols + 2 * cols) := by
        have htake := congrArg (List.take (row * cols + 2 * cols)) hsame
        rwa [List.take_take, List.take_take, min_eq_left (by omega)] at htake
      have hrowAlone : StandsAlone name cols ((left.drop (row * cols)).take (2 * cols)) := by
        apply standsAlone_of_two_rows name hcols (hcells _ _)
        rw [List.length_take, List.length_drop]
        omega
      obtain ⟨hleft, hright⟩ := expandRow_drop_eq name hrowSame hrowAlone
      have hwidth := hrowAlone.length_bytes name hcols (hcells _ _)
      rw [show above + 1 + below + 1 = above + below + 1 + 1 by omega,
        expandRows_succ name hleft hrowAlone, expandRows_succ name hright hrowAlone]
      refine ⟨_, ?_, (List.prefix_append_right_inj _).mpr hleftBelow,
        (List.prefix_append_right_inj _).mpr hrightBelow⟩
      rw [List.length_append, hwidth, hshown]
      ring

namespace Buffers

variable {capacity : ℕ}

/-- Front grids with the same first rows have the same cells up to the end of these. -/
theorem take_front_eq {other : ℕ} {left : Buffers capacity} {right : Buffers other}
    (hleft : left.Reachable) (hright : right.Reachable) (hgeometry : left.geometry = right.geometry)
    (hcols : 0 < left.geometry.cols.toNat) {count : ℕ}
    (hrows : ∀ above : UInt8, above.toNat < count → left.frontRow? above = right.frontRow? above) :
    left.front.take (count * left.geometry.cols.toNat) =
      right.front.take (count * left.geometry.cols.toNat) := by
  apply List.ext_getElem?
  intro place
  rw [List.getElem?_take, List.getElem?_take]
  split
  · next hplace =>
    apply getElem?_front_eq hleft hright hgeometry hcols
    intro above habove
    apply hrows
    rw [habove, Nat.div_lt_iff_lt_mul hcols]
    exact hplace
  · rfl

theorem frontRow?_eq_some {buffers : Buffers capacity} {row : UInt8} {cells : List UInt8}
    (hrow : buffers.frontRow? row = some cells) :
    row < buffers.geometry.rows ∧
      cells = (buffers.front.drop (row.toNat * buffers.geometry.cols.toNat)).take
        buffers.geometry.cols.toNat := by
  rw [frontRow?, Geometry.rowOf?, Option.ite_none_right_eq_some, Option.some.injEq] at hrow
  exact ⟨hrow.1, hrow.2.symm⟩

section TwoScreens

variable {other : ℕ} {left : Buffers capacity} {right : Buffers other}

/-- What two screens show down to a row is the same if their front grids are the same up to where
that row has all it takes. -/
theorem render_take_eq_of_take_front_eq (hleft : left.Reachable) (hright : right.Reachable)
    (hgeometry : left.geometry = right.geometry) (hcols : 2 ≤ left.geometry.cols.toNat)
    (hleftZero : 0 ∉ left.front) (hrightZero : 0 ∉ right.front) {row : UInt8}
    (hrow : row < left.geometry.rows) {reach : ℕ} (hreach : left.geometry.cols.toNat ≤ reach)
    (hsame : left.front.take (row.toNat * left.geometry.cols.toNat + reach) =
      right.front.take (row.toNat * left.geometry.cols.toNat + reach))
    (source : NameSource)
    (halone : StandsAlone source.written left.geometry.cols.toNat
      ((left.front.drop (row.toNat * left.geometry.cols.toNat)).take reach)) :
    (row.toNat + 1) * left.geometry.cols.toNat ≤ (left.render source).length ∧
    (row.toNat + 1) * left.geometry.cols.toNat ≤ (right.render source).length ∧
    (left.render source).take ((row.toNat + 1) * left.geometry.cols.toNat) =
      (right.render source).take ((row.toNat + 1) * left.geometry.cols.toNat) := by
  have hnat : row.toNat < left.geometry.rows.toNat := UInt8.lt_iff_toNat_lt.mp hrow
  have hlength : (0 + row.toNat) * left.geometry.cols.toNat + left.geometry.cols.toNat ≤
      left.front.length := by
    rw [hleft.length_front, Geometry.cells, Nat.zero_add, ← Nat.succ_mul, Nat.mul_comm]
    exact Nat.mul_le_mul_left _ hnat
  rw [← Nat.zero_add row.toNat] at hsame halone
  obtain ⟨shown, hshown, hleftShown, hrightShown⟩ := exists_prefix_expandRows source.written hcols
    hleftZero hreach hlength hsame halone (left.geometry.rows.toNat - row.toNat - 1)
  rw [show row.toNat + (left.geometry.rows.toNat - row.toNat - 1) + 1 =
    left.geometry.rows.toNat by omega] at hleftShown hrightShown
  rw [render_eq_expandRows hleft hleftZero source, render_eq_expandRows hright hrightZero source,
    ← hgeometry, ← hshown]
  refine ⟨hleftShown.length_le, hrightShown.length_le, ?_⟩
  rw [← List.prefix_iff_eq_take.mp hleftShown, ← List.prefix_iff_eq_take.mp hrightShown]

/-- No row reads past the row below it. -/
theorem render_take_eq_of_next_row (hleft : left.Reachable) (hright : right.Reachable)
    (hgeometry : left.geometry = right.geometry) (hcols : 2 ≤ left.geometry.cols.toNat)
    (hleftZero : 0 ∉ left.front) (hrightZero : 0 ∉ right.front) {row : UInt8}
    (hrow : row.toNat + 1 < left.geometry.rows.toNat)
    (hrows : ∀ above : UInt8, above.toNat < row.toNat + 2 →
      left.frontRow? above = right.frontRow? above) (source : NameSource) :
    (left.render source).take ((row.toNat + 1) * left.geometry.cols.toNat) =
      (right.render source).take ((row.toNat + 1) * left.geometry.cols.toNat) := by
  have hsame := take_front_eq hleft hright hgeometry (lt_of_lt_of_le (by decide) hcols) hrows
  have hinside : row < left.geometry.rows := UInt8.lt_iff_toNat_lt.mpr (Nat.lt_of_succ_lt hrow)
  have hlength : 2 * left.geometry.cols.toNat ≤
      ((left.front.drop (row.toNat * left.geometry.cols.toNat)).take
        (2 * left.geometry.cols.toNat)).length := by
    have hgrid : (row.toNat + 2) * left.geometry.cols.toNat ≤ left.front.length := by
      rw [hleft.length_front, Geometry.cells, Nat.mul_comm]
      exact Nat.mul_le_mul_left _ hrow
    rw [List.length_take, List.length_drop]
    rw [Nat.add_mul] at hgrid
    omega
  have halone := standsAlone_of_two_rows source.written hcols
    (fun hmem => hleftZero (List.mem_of_mem_drop (List.mem_of_mem_take hmem))) hlength
  rw [Nat.add_mul] at hsame
  exact (render_take_eq_of_take_front_eq hleft hright hgeometry hcols hleftZero hrightZero hinside
    (Nat.le_mul_of_pos_left _ (by decide)) hsame source halone).2.2

/-- What is shown down to a row depends on the rows down to it alone, if that row stands alone:
not on the rows below, on the names that are shown there, or on whether there are any. -/
theorem render_take_eq_of_rows_above (hleft : left.Reachable) (hright : right.Reachable)
    (hgeometry : left.geometry = right.geometry) (hcols : 2 ≤ left.geometry.cols.toNat)
    (hleftZero : 0 ∉ left.front) (hrightZero : 0 ∉ right.front) {row : UInt8} {cells : List UInt8}
    (hrow : left.frontRow? row = some cells)
    (hrows : ∀ above ≤ row, left.frontRow? above = right.frontRow? above)
    (source : NameSource)
    (halone : StandsAlone source.written left.geometry.cols.toNat cells) :
    (row.toNat + 1) * left.geometry.cols.toNat ≤ (left.render source).length ∧
    (row.toNat + 1) * left.geometry.cols.toNat ≤ (right.render source).length ∧
    (left.render source).take ((row.toNat + 1) * left.geometry.cols.toNat) =
      (right.render source).take ((row.toNat + 1) * left.geometry.cols.toNat) := by
  obtain ⟨hinside, rfl⟩ := frontRow?_eq_some hrow
  have hfirst : ∀ above : UInt8, above.toNat < row.toNat + 1 →
      left.frontRow? above = right.frontRow? above := by
    intro above habove
    apply hrows
    exact UInt8.le_iff_toNat_le.mpr (Nat.le_of_lt_succ habove)
  have hsame := take_front_eq hleft hright hgeometry (lt_of_lt_of_le (by decide) hcols) hfirst
  rw [Nat.succ_mul] at hsame
  exact render_take_eq_of_take_front_eq hleft hright hgeometry hcols hleftZero hrightZero hinside
    le_rfl hsame source halone

end TwoScreens

/-- The rest of a row that a name cuts off, and everything in the row below, may differ. -/
theorem render_take_eq_of_cut_off_name :
    let left : Buffers 8 := {
      geometry := ⟨4, 2⟩
      frontCells := #v[0x61, 0x25, 0x6C, 0x62, 0x6E, 0x65, 0x78, 0x74]
      backCells := #v[0x61, 0x25, 0x6C, 0x62, 0x6E, 0x65, 0x78, 0x74]
      holdsVariable := true
      composed := true }
    let right : Buffers 8 := {
      geometry := ⟨4, 2⟩
      frontCells := #v[0x61, 0x25, 0x6C, 0x62, 0x25, 0x6C, 0x25, 0x6C]
      backCells := #v[0x61, 0x25, 0x6C, 0x62, 0x25, 0x6C, 0x25, 0x6C]
      holdsVariable := true
      composed := true }
    let source : NameSource := { pieces := [[0x4C, 0x6F], [0x77, 0x65, 0x72]], completed := true }
    (left.render source).take 4 = [0x61, 0x4C, 0x6F, 0x77] ∧
      (left.render source).take 4 = (right.render source).take 4 := by
  intro left right source
  have hmake : Buffers.make ⟨4, 2⟩ = .ok (cleared ⟨4, 2⟩ : Buffers 8) := rfl
  have hupper := (Reachable.make hmake).composeRow
    (composeRow_of_lt [0x61, 0x25, 0x6C, 0x62] (by decide : (0 : UInt8) < 2))
  have hleft : left.Reachable := (hupper.composeRow
    (composeRow_of_lt [0x6E, 0x65, 0x78, 0x74] (by decide : (1 : UInt8) < 2))).present
  have hright : right.Reachable := (hupper.composeRow
    (composeRow_of_lt [0x25, 0x6C, 0x25, 0x6C] (by decide : (1 : UInt8) < 2))).present
  have hrow : left.frontRow? 0 = some [0x61, 0x25, 0x6C, 0x62] := by decide
  have hrows : ∀ above : UInt8, above ≤ 0 → left.frontRow? above = right.frontRow? above := by
    intro above habove
    rw [UInt8.le_zero_iff.mp habove]
    decide
  have halone : StandsAlone source.written 4 [0x61, 0x25, 0x6C, 0x62] :=
    standsAlone_of_two_letters (by decide) (by decide) (by decide) (by decide) (by decide)
  refine ⟨by decide, ?_⟩
  exact (render_take_eq_of_rows_above hleft hright rfl (by decide) (by decide) (by decide)
    hrow hrows source halone).2.2

/-- With a variable mark in its last cell a row shows a letter of the name or not, as the row
below has it. -/
theorem render_take_ne_of_mark_in_last_cell :
    let left : Buffers 8 := {
      geometry := ⟨4, 2⟩
      frontCells := #v[0x61, 0x62, 0x63, 0x25, 0x6C, 0x78, 0x79, 0x7A]
      backCells := #v[0x61, 0x62, 0x63, 0x25, 0x6C, 0x78, 0x79, 0x7A]
      holdsVariable := true
      composed := true }
    let right : Buffers 8 := {
      geometry := ⟨4, 2⟩
      frontCells := #v[0x61, 0x62, 0x63, 0x25, 0x6E, 0x78, 0x79, 0x7A]
      backCells := #v[0x61, 0x62, 0x63, 0x25, 0x6E, 0x78, 0x79, 0x7A]
      holdsVariable := true
      composed := true }
    let source : NameSource := { pieces := [[0x4C, 0x6F, 0x77, 0x65, 0x72]], completed := true }
    left.Reachable ∧ right.Reachable ∧ left.geometry = right.geometry ∧
      2 ≤ left.geometry.cols.toNat ∧ 0 ∉ left.front ∧ 0 ∉ right.front ∧
      (∀ above : UInt8, above ≤ 0 → left.frontRow? above = right.frontRow? above) ∧
      source.written ≠ [] ∧
      (left.render source).take 4 = [0x61, 0x62, 0x63, 0x4C] ∧
      (right.render source).take 4 = [0x61, 0x62, 0x63, 0x25] := by
  intro left right source
  have hmake : Buffers.make ⟨4, 2⟩ = .ok (cleared ⟨4, 2⟩ : Buffers 8) := rfl
  have hupper := (Reachable.make hmake).composeRow
    (composeRow_of_lt [0x61, 0x62, 0x63, 0x25] (by decide : (0 : UInt8) < 2))
  have hleft : left.Reachable := (hupper.composeRow
    (composeRow_of_lt [0x6C, 0x78, 0x79, 0x7A] (by decide : (1 : UInt8) < 2))).present
  have hright : right.Reachable := (hupper.composeRow
    (composeRow_of_lt [0x6E, 0x78, 0x79, 0x7A] (by decide : (1 : UInt8) < 2))).present
  refine ⟨hleft, hright, rfl, by decide, by decide, by decide, ?_, by decide, by decide, by decide⟩
  intro above habove
  rw [UInt8.le_zero_iff.mp habove]
  decide

end Buffers

end SplitPanel.Screen

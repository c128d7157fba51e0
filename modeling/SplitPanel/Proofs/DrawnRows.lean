import SplitPanel.Proofs.ScreenHistory

/-!
# Screens drawn line by line

A host that draws a screen sets its rows, one after the other from the top, and then shows it.  The
front grid stays as it was until the screen is shown.  From then on every row for which there was a
text has that, and every other row is what the back grid held before.
-/

namespace SplitPanel.Screen

/-- The edits that set texts from the top row on. -/
def Edit.lines (texts : List (List UInt8)) : List Edit :=
  texts.zipIdx.map fun (text, line) => .setLine (UInt8.ofNat line) text

theorem Edit.lines_concat (texts : List (List UInt8)) (last : List UInt8) :
    Edit.lines (texts ++ [last]) =
      Edit.lines texts ++ [.setLine (UInt8.ofNat texts.length) last] := by
  rw [lines, lines, List.zipIdx_append, List.map_append]
  simp

theorem Edit.exists_setLine_of_mem_lines {texts : List (List UInt8)} {edit : Edit}
    (hmem : edit ∈ Edit.lines texts) : ∃ line text, edit = .setLine line text := by
  obtain ⟨⟨text, line⟩, -, rfl⟩ := List.mem_map.mp hmem
  exact ⟨_, _, rfl⟩

namespace Geometry

/-- The rows of a grid with texts from the top row on.  A row without a text stays as it is. -/
def drawnRows (geometry : Geometry) (texts : List (List UInt8)) (cells : List UInt8) :
    List (List UInt8) :=
  (geometry.rowsOf cells).mapIdx fun row before =>
    (texts[row]?.map (rowCells geometry.cols.toNat)).getD before

/-- The cells of a grid with texts from the top row on. -/
def drawn (geometry : Geometry) (texts : List (List UInt8)) (cells : List UInt8) : List UInt8 :=
  (geometry.drawnRows texts cells).flatten

theorem length_rowsOf (geometry : Geometry) (cells : List UInt8) :
    (geometry.rowsOf cells).length = geometry.rows.toNat := by
  rw [rowsOf, List.length_map, List.length_range]

theorem getElem?_rowsOf (geometry : Geometry) (cells : List UInt8) (row : UInt8) :
    (geometry.rowsOf cells)[row.toNat]? = geometry.rowOf? cells row := by
  rw [rowsOf, rowOf?, List.getElem?_map]
  by_cases hrow : row < geometry.rows
  · rw [if_pos hrow, List.getElem?_range (UInt8.lt_iff_toNat_lt.mp hrow)]
    rfl
  · rw [if_neg hrow, List.getElem?_eq_none]
    · rfl
    · rw [List.length_range]
      exact Nat.not_lt.mp fun hlt => hrow (UInt8.lt_iff_toNat_lt.mpr hlt)

/-- The rows of a grid one after the other are the grid. -/
theorem flatten_rowsOf {geometry : Geometry} {cells : List UInt8}
    (hlength : cells.length = geometry.cells) : (geometry.rowsOf cells).flatten = cells := by
  have htop : ∀ count, ((List.range count).map fun row =>
      (cells.drop (row * geometry.cols.toNat)).take geometry.cols.toNat).flatten =
        cells.take (count * geometry.cols.toNat) := by
    intro count
    induction count with
    | zero => rw [Nat.zero_mul]; rfl
    | succ count ih =>
        rw [List.range_succ, List.map_append, List.flatten_append, ih, Nat.succ_mul, List.take_add]
        simp
  rw [rowsOf, htop, List.take_of_length_le]
  rw [hlength, Geometry.cells, Nat.mul_comm]

/-- Texts past the last row are not drawn. -/
theorem drawn_take (geometry : Geometry) (texts : List (List UInt8)) (cells : List UInt8) :
    geometry.drawn (texts.take geometry.rows.toNat) cells = geometry.drawn texts cells := by
  rw [drawn, drawn, drawnRows, drawnRows]
  congr 1
  apply List.ext_getElem
  · rw [List.length_mapIdx, List.length_mapIdx]
  · intro row hleft _
    rw [List.length_mapIdx, length_rowsOf] at hleft
    rw [List.getElem_mapIdx, List.getElem_mapIdx, List.getElem?_take, if_pos hleft]

end Geometry

namespace Buffers

variable {capacity : ℕ}

theorem length_back {buffers : Buffers capacity}
    (hfits : buffers.geometry.check capacity = .ok ()) :
    buffers.back.length = buffers.geometry.cells := by
  rw [back, List.length_take, Vector.length_toList]
  exact min_eq_left (Geometry.check_eq_ok_iff.mp hfits).2.2

theorem exists_backRow {buffers : Buffers capacity}
    (hfits : buffers.geometry.check capacity = .ok ()) {row : UInt8}
    (hrow : row < buffers.geometry.rows) :
    ∃ cells, buffers.backRow? row = some cells ∧
      cells.length = buffers.geometry.cols.toNat := by
  refine ⟨_, if_pos hrow, ?_⟩
  have hend : row.toNat * buffers.geometry.cols.toNat + buffers.geometry.cols.toNat ≤
      buffers.geometry.cells := by
    rw [← Nat.succ_mul, Geometry.cells, Nat.mul_comm]
    exact Nat.mul_le_mul_left _ (UInt8.lt_iff_toNat_lt.mp hrow)
  rw [List.length_take, List.length_drop, length_back hfits]
  exact min_eq_left (Nat.le_sub_of_add_le' hend)

@[simp]
theorem geometry_edit (buffers : Buffers capacity) (edit : Edit) :
    (buffers.edit edit).geometry = buffers.geometry := by
  have hedited := edited_edit buffers edit
  generalize buffers.edit edit = next at hedited ⊢
  cases hedited with
  | set hnext =>
      obtain ⟨-, rfl⟩ := composeRow_eq_ok hnext
      rfl
  | refused => rfl
  | cleared => rfl
  | presented => exact geometry_present _

theorem geometry_after (edits : List Edit) (buffers : Buffers capacity) :
    (buffers.after edits).geometry = buffers.geometry := by
  induction edits using List.reverseRecOn with
  | nil => rfl
  | append_singleton earlier last ih => rw [after_concat, geometry_edit, ih]

/-- Lines do not show before the screen is shown. -/
theorem front_after_of_lines {edits : List Edit}
    (hlines : ∀ edit ∈ edits, ∃ line text, edit = .setLine line text) (buffers : Buffers capacity) :
    (buffers.after edits).front = buffers.front := by
  induction edits using List.reverseRecOn with
  | nil => rfl
  | append_singleton earlier last ih =>
      obtain ⟨line, text, rfl⟩ := hlines last List.mem_concat_self
      rw [after_concat, front_edit_setLine]
      exact ih fun edit hmem => hlines edit (List.mem_append_left _ hmem)

/-- What a line makes of a screen that has its row. -/
theorem edited_set {buffers : Buffers capacity} {line : UInt8} (text : List UInt8)
    (hline : line < buffers.geometry.rows) :
    buffers.composeRow line text = .ok (buffers.edit (.setLine line text)) ∧
      (buffers.edit (.setLine line text)).composed = true := by
  have hnext := composeRow_of_lt text hline
  rw [edit, hnext]
  exact ⟨rfl, rfl⟩

theorem ofNat_length_lt_rows {buffers : Buffers capacity} {texts : List (List UInt8)}
    {last : List UInt8} (hcount : (texts ++ [last]).length ≤ buffers.geometry.rows.toNat) :
    UInt8.ofNat texts.length < buffers.geometry.rows ∧
      (UInt8.ofNat texts.length).toNat = texts.length := by
  rw [List.length_append, List.length_singleton] at hcount
  have hsmall : texts.length < UInt8.size :=
    lt_of_lt_of_le hcount (Nat.le_of_lt buffers.geometry.rows.toNat_lt)
  have hnumber : (UInt8.ofNat texts.length).toNat = texts.length := UInt8.toNat_ofNat_of_lt hsmall
  refine ⟨UInt8.lt_iff_toNat_lt.mpr ?_, hnumber⟩
  rw [hnumber]
  exact hcount

theorem composed_after_lines {before : Buffers capacity} {texts : List (List UInt8)}
    (hcount : texts.length ≤ before.geometry.rows.toNat) (hsome : texts ≠ []) :
    (before.after (Edit.lines texts)).composed = true := by
  obtain ⟨earlier, last, rfl⟩ := (List.eq_nil_or_concat texts).resolve_left hsome
  rw [List.concat_eq_append] at hcount ⊢
  rw [Edit.lines_concat, after_concat]
  apply (edited_set last _).2
  rw [geometry_after]
  exact (ofNat_length_lt_rows hcount).1

/-- A row of the back grid is the text for it, or it is as it was. -/
theorem backRow?_after_lines {before : Buffers capacity} {texts : List (List UInt8)}
    (hfits : before.geometry.check capacity = .ok ())
    (hcount : texts.length ≤ before.geometry.rows.toNat) {row : UInt8}
    (hrow : row < before.geometry.rows) {cells : List UInt8}
    (hlength : cells.length = before.geometry.cols.toNat)
    (hbefore : before.backRow? row = some cells) :
    (before.after (Edit.lines texts)).backRow? row =
      some ((texts[row.toNat]?.map (rowCells before.geometry.cols.toNat)).getD cells) := by
  induction texts using List.reverseRecOn with
  | nil => exact hbefore
  | append_singleton earlier last ih =>
      obtain ⟨hline, hnumber⟩ := ofNat_length_lt_rows hcount
      have hearlier := ih (le_trans (by simp) hcount)
      have hgeometry := geometry_after (Edit.lines earlier) before
      rw [Edit.lines_concat, after_concat]
      generalize before.after (Edit.lines earlier) = drawn at hgeometry hearlier ⊢
      rw [← hgeometry] at hfits hrow hline hlength hearlier ⊢
      have hrowLength : ((earlier[row.toNat]?.map (rowCells drawn.geometry.cols.toNat)).getD
          cells).length = drawn.geometry.cols.toNat := by
        cases earlier[row.toNat]? with
        | none => exact hlength
        | some text => exact length_rowCells _ text
      rw [backRow?_composeRow (Geometry.check_eq_ok_iff.mp hfits).2.2 (edited_set last hline).1 hrow
        hrowLength hearlier, List.getElem?_append]
      -- The last text is for the row below those of the earlier ones.
      by_cases hlast : UInt8.ofNat earlier.length = row
      · subst hlast
        rw [if_pos rfl, hnumber, if_neg (lt_irrefl _), Nat.sub_self]
        rfl
      · rw [if_neg hlast]
        split
        · rfl
        · next hbehind =>
          have hdifferent : row.toNat ≠ earlier.length := by
            rintro hsame
            rw [← hsame, UInt8.ofNat_toNat] at hlast
            exact hlast rfl
          rw [List.getElem?_eq_none (Nat.not_lt.mp hbehind), List.getElem?_eq_none]
          rw [List.length_singleton]
          omega

theorem rowsOf_after_lines {before : Buffers capacity} {texts : List (List UInt8)}
    (hfits : before.geometry.check capacity = .ok ())
    (hcount : texts.length ≤ before.geometry.rows.toNat) :
    before.geometry.rowsOf (before.after (Edit.lines texts)).back =
      before.geometry.drawnRows texts before.back := by
  apply List.ext_getElem
  · rw [Geometry.drawnRows, List.length_mapIdx, Geometry.length_rowsOf, Geometry.length_rowsOf]
  · intro place hleft hright
    have hplace : place < before.geometry.rows.toNat := by
      rw [Geometry.length_rowsOf] at hleft
      exact hleft
    obtain ⟨row, rfl⟩ : ∃ row : UInt8, row.toNat = place :=
      ⟨UInt8.ofNat place, UInt8.toNat_ofNat_of_lt (hplace.trans before.geometry.rows.toNat_lt)⟩
    have hrow : row < before.geometry.rows := UInt8.lt_iff_toNat_lt.mpr hplace
    obtain ⟨cells, hbefore, hlength⟩ := exists_backRow hfits hrow
    have hafter := backRow?_after_lines hfits hcount hrow hlength hbefore
    rw [backRow?, geometry_after, ← Geometry.getElem?_rowsOf, List.getElem?_eq_getElem hleft,
      Option.some.injEq] at hafter
    rw [hafter]
    simp only [Geometry.drawnRows, List.getElem_mapIdx]
    rw [backRow?, ← Geometry.getElem?_rowsOf, List.getElem?_eq_some_iff] at hbefore
    rw [hbefore.2]

/-- When a screen is shown after its lines were set, it is drawn as a whole. -/
theorem front_after_drawing {before : Buffers capacity} {texts : List (List UInt8)}
    (hfits : before.geometry.check capacity = .ok ())
    (hcount : texts.length ≤ before.geometry.rows.toNat) (hsome : texts ≠ []) :
    (before.after (Edit.lines texts ++ [.present])).front =
      before.geometry.drawn texts before.back := by
  have hlength : (before.after (Edit.lines texts)).back.length = before.geometry.cells := by
    rw [length_back, geometry_after]
    rw [geometry_after]
    exact hfits
  rw [after_concat, edit, front_present_of_composed (composed_after_lines hcount hsome),
    Geometry.drawn, ← rowsOf_after_lines hfits hcount, Geometry.flatten_rowsOf hlength]

end Buffers

end SplitPanel.Screen

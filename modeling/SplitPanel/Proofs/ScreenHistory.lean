import Mathlib.Data.List.DropRight
import Mathlib.Data.List.Induction
import SplitPanel.Proofs.BufferStates

/-!
# What a screen holds

A screen holds what was done with it since it was last cleared.  Every row of the back grid is the
last text that was set for it.  The front grid is the back grid as it was when it was last shown,
if a line had been set by then, and else there is nothing on it.
-/

namespace SplitPanel.Screen

/-- What can be done with a screen. -/
inductive Edit where
  | setLine (line : UInt8) (text : List UInt8)
  | clear
  | setUp
  | present
deriving DecidableEq, Repr

namespace Edit

def clears : Edit → Bool
  | .clear | .setUp => true
  | .setLine _ _ | .present => false

/-- A line is set that the screen has. -/
def composes (rows : UInt8) : Edit → Bool
  | .setLine line _ => line < rows
  | .clear | .setUp | .present => false

/-- The text that is set for a row. -/
def text? (row : UInt8) : Edit → Option (List UInt8)
  | .setLine line text => if line = row then some text else none
  | .clear | .setUp | .present => none

/-- The last edits, from which on the screen was not cleared any more. -/
def sinceClear (edits : List Edit) : List Edit :=
  edits.rtakeWhile fun edit => !edit.clears

def lastText? (row : UInt8) (edits : List Edit) : Option (List UInt8) :=
  (sinceClear edits).reverse.findSome? (text? row)

/-- A line was set since the screen was last cleared. -/
def IsComposed (rows : UInt8) (edits : List Edit) : Prop :=
  ∃ edit ∈ sinceClear edits, edit.composes rows = true

instance (rows : UInt8) (edits : List Edit) : Decidable (IsComposed rows edits) :=
  inferInstanceAs (Decidable (∃ edit ∈ sinceClear edits, edit.composes rows = true))

/-- The screen was last shown after the earlier edits, and it was not cleared since. -/
def ShownAfter (rows : UInt8) (earlier edits : List Edit) : Prop :=
  IsComposed rows earlier ∧ ∃ lines, edits = earlier ++ .present :: lines ∧
    ∀ edit ∈ lines, ∃ line text, edit = .setLine line text

/-! ## One more edit -/

theorem sinceClear_concat (edits : List Edit) (last : Edit) :
    sinceClear (edits ++ [last]) = if last.clears then [] else sinceClear edits ++ [last] := by
  rw [sinceClear, List.rtakeWhile_concat]
  cases last.clears <;> rfl

theorem isComposed_concat {rows : UInt8} {edits : List Edit} {last : Edit} :
    IsComposed rows (edits ++ [last]) ↔
      last.clears = false ∧ (IsComposed rows edits ∨ last.composes rows = true) := by
  rw [IsComposed, sinceClear_concat]
  cases last.clears with
  | true => simp
  | false => simp [IsComposed, or_and_right, exists_or]

theorem lastText?_concat (row : UInt8) (edits : List Edit) (last : Edit) :
    lastText? row (edits ++ [last]) =
      if last.clears then none else (last.text? row).or (lastText? row edits) := by
  rw [lastText?, sinceClear_concat]
  cases last.clears with
  | true => rfl
  | false =>
      rw [if_neg Bool.false_ne_true, if_neg Bool.false_ne_true, List.reverse_concat,
        List.findSome?_cons, lastText?]
      cases last.text? row <;> rfl

theorem shownAfter_concat_present {rows : UInt8} {edits : List Edit}
    (hcomposed : IsComposed rows edits) : ShownAfter rows edits (edits ++ [.present]) :=
  ⟨hcomposed, [], rfl, List.forall_mem_nil _⟩

theorem ShownAfter.concat_setLine {rows : UInt8} {earlier edits : List Edit}
    (hshown : ShownAfter rows earlier edits) (line : UInt8) (text : List UInt8) :
    ShownAfter rows earlier (edits ++ [.setLine line text]) := by
  obtain ⟨hcomposed, lines, rfl, hlines⟩ := hshown
  refine ⟨hcomposed, lines ++ [.setLine line text], List.append_assoc .., ?_⟩
  intro edit hmem
  rcases List.mem_append.mp hmem with hbefore | hlast
  · exact hlines edit hbefore
  · exact ⟨line, text, List.mem_singleton.mp hlast⟩

end Edit

/-- A text cut to the width of a row, or filled up to it with blanks. -/
def rowCells (cols : ℕ) (text : List UInt8) : List UInt8 :=
  text.take cols ++ List.replicate (cols - text.length) blankCell

theorem length_rowCells (cols : ℕ) (text : List UInt8) : (rowCells cols text).length = cols := by
  rw [rowCells, List.length_append, List.length_take, List.length_replicate]
  omega

theorem getElem?_rowCells {cols col : ℕ} (text : List UInt8) (hcol : col < cols) :
    (rowCells cols text)[col]? = some (text.getD col blankCell) := by
  rw [rowCells, List.getD_eq_getElem?_getD]
  by_cases hlength : col < text.length
  · have htaken : col < (text.take cols).length := by
      rw [List.length_take]
      exact lt_min hcol hlength
    rw [List.getElem?_append_left htaken, List.getElem?_take, if_pos hcol,
      List.getElem?_eq_getElem hlength, Option.getD_some]
  · have hend : text.length ≤ col := Nat.not_lt.mp hlength
    rw [List.take_of_length_le (hend.trans hcol.le), List.getElem?_append_right hend,
      List.getElem?_replicate, if_pos (by omega), List.getElem?_eq_none hend, Option.getD_none]

theorem Geometry.place_lt {geometry : Geometry} {row : UInt8} (hrow : row < geometry.rows) {col : ℕ}
    (hcol : col < geometry.cols.toNat) :
    row.toNat * geometry.cols.toNat + col < geometry.cells := by
  have hnext : row.toNat + 1 ≤ geometry.rows.toNat := UInt8.lt_iff_toNat_lt.mp hrow
  calc row.toNat * geometry.cols.toNat + col
      < row.toNat * geometry.cols.toNat + geometry.cols.toNat := Nat.add_lt_add_left hcol _
    _ = (row.toNat + 1) * geometry.cols.toNat := (Nat.succ_mul ..).symm
    _ ≤ geometry.rows.toNat * geometry.cols.toNat := Nat.mul_le_mul_right _ hnext
    _ = geometry.cells := Nat.mul_comm ..

namespace Buffers

open Edit (IsComposed ShownAfter lastText?)

variable {capacity : ℕ}

/-! ## Rows of the back grid -/

/-- A row of the back grid has the cells from its start on. -/
theorem backRow?_eq_some_iff {buffers : Buffers capacity} {row : UInt8}
    (hrow : row < buffers.geometry.rows) {cells : List UInt8}
    (hlength : cells.length = buffers.geometry.cols.toNat) :
    buffers.backRow? row = some cells ↔ ∀ col < buffers.geometry.cols.toNat,
      cells[col]? = buffers.backCells[row.toNat * buffers.geometry.cols.toNat + col]? := by
  have hrowCells : ∀ col < buffers.geometry.cols.toNat,
      ((buffers.back.drop (row.toNat * buffers.geometry.cols.toNat)).take
        buffers.geometry.cols.toNat)[col]? =
      buffers.backCells[row.toNat * buffers.geometry.cols.toNat + col]? := by
    intro col hcol
    rw [List.getElem?_take, if_pos hcol, List.getElem?_drop, back, List.getElem?_take,
      if_pos (Geometry.place_lt hrow hcol), Vector.getElem?_toList]
  rw [backRow?, Geometry.rowOf?, if_pos hrow, Option.some_inj]
  constructor
  · rintro rfl col hcol
    exact hrowCells col hcol
  · intro hsame
    apply List.ext_getElem?
    intro col
    by_cases hcol : col < buffers.geometry.cols.toNat
    · rw [hrowCells col hcol, hsame col hcol]
    · have hend : buffers.geometry.cols.toNat ≤ col := Nat.not_lt.mp hcol
      rw [List.getElem?_eq_none ((List.length_take_le ..).trans hend),
        List.getElem?_eq_none (hlength.trans_le hend)]

/-- Setting a line replaces the cells of its row, and no others. -/
theorem getElem?_withRow {geometry : Geometry} (line : UInt8) (text : List UInt8)
    (cells : Vector UInt8 capacity) {row : UInt8} {col : ℕ} (hcol : col < geometry.cols.toNat)
    (hplace : row.toNat * geometry.cols.toNat + col < capacity) :
    (withRow geometry line text cells)[row.toNat * geometry.cols.toNat + col]? =
      if line = row then some (text.getD col blankCell)
      else cells[row.toNat * geometry.cols.toNat + col]? := by
  rw [Vector.getElem?_eq_getElem hplace, Vector.getElem?_eq_getElem hplace, withRow,
    Vector.getElem_ofFn]
  by_cases hline : line = row
  · subst hline
    rw [if_pos rfl, if_pos ⟨Nat.le_add_right _ _, Nat.add_lt_add_left hcol _⟩,
      Nat.add_sub_cancel_left]
  · have hother : ¬ (line.toNat * geometry.cols.toNat ≤ row.toNat * geometry.cols.toNat + col ∧
        row.toNat * geometry.cols.toNat + col <
          line.toNat * geometry.cols.toNat + geometry.cols.toNat) := by
      rintro ⟨hstart, hend⟩
      rcases lt_or_gt_of_ne (fun hsame => hline (UInt8.toNat_inj.mp hsame)) with hbefore | hafter
      · have hrows := Nat.mul_le_mul_right geometry.cols.toNat (Nat.succ_le_of_lt hbefore)
        rw [Nat.succ_mul] at hrows
        omega
      · have hrows := Nat.mul_le_mul_right geometry.cols.toNat (Nat.succ_le_of_lt hafter)
        rw [Nat.succ_mul] at hrows
        omega
    rw [if_neg hline, if_neg hother]
    rfl

theorem backRow?_composeRow {buffers next : Buffers capacity} {line row : UInt8}
    {text cells : List UInt8} (hcells : buffers.geometry.cells ≤ capacity)
    (hnext : buffers.composeRow line text = .ok next) (hrow : row < buffers.geometry.rows)
    (hlength : cells.length = buffers.geometry.cols.toNat)
    (hbefore : buffers.backRow? row = some cells) :
    next.backRow? row =
      some (if line = row then rowCells buffers.geometry.cols.toNat text else cells) := by
  obtain ⟨-, rfl⟩ := composeRow_eq_ok hnext
  rw [backRow?_eq_some_iff hrow hlength] at hbefore
  refine (backRow?_eq_some_iff ?_ ?_).mpr ?_
  · exact hrow
  · split
    · exact length_rowCells _ text
    · exact hlength
  · intro col hcol
    rw [getElem?_withRow line text _ hcol ((Geometry.place_lt hrow hcol).trans_le hcells)]
    split
    · exact getElem?_rowCells text hcol
    · exact hbefore col hcol

theorem backRow?_cleared {geometry : Geometry} (hcells : geometry.cells ≤ capacity) {row : UInt8}
    (hrow : row < geometry.rows) :
    (cleared geometry : Buffers capacity).backRow? row =
      some (rowCells geometry.cols.toNat []) := by
  refine (backRow?_eq_some_iff ?_ (length_rowCells _ [])).mpr ?_
  · exact hrow
  · intro col hcol
    have hplace : row.toNat * geometry.cols.toNat + col < capacity :=
      (Geometry.place_lt hrow hcol).trans_le hcells
    rw [getElem?_rowCells [] hcol]
    exact ((Vector.getElem?_replicate ..).trans (if_pos hplace)).symm

@[simp]
theorem backRow?_present (buffers : Buffers capacity) (row : UInt8) :
    buffers.present.backRow? row = buffers.backRow? row := by
  rw [present]
  split <;> rfl

@[simp]
theorem composed_present (buffers : Buffers capacity) :
    buffers.present.composed = buffers.composed := by
  rw [present]
  split <;> rfl

/-! ## The front cells -/

/-- As long as no line was set, there is nothing to show. -/
theorem Reachable.present_eq_self {buffers : Buffers capacity} (h : buffers.Reachable)
    (hcomposed : buffers.composed = false) : buffers.present = buffers := by
  induction h with
  | make hmake =>
      obtain ⟨-, rfl⟩ := make_eq_ok hmake
      rfl
  | clear _ _ => rfl
  | composeRow _ hnext _ =>
      obtain ⟨-, rfl⟩ := composeRow_eq_ok hnext
      contradiction
  | present _ ih =>
      rw [composed_present] at hcomposed
      rw [ih hcomposed, ih hcomposed]

/-- The cells behind the grid end what is shown. -/
theorem Reachable.getElem_frontCells {buffers : Buffers capacity} (h : buffers.Reachable)
    {place : ℕ} (hplace : place < capacity) (hbehind : buffers.geometry.cells ≤ place) :
    buffers.frontCells[place] = 0 := by
  induction h with
  | make hmake =>
      obtain ⟨-, rfl⟩ := make_eq_ok hmake
      exact Vector.getElem_replicate hplace
  | clear _ _ => exact Vector.getElem_replicate hplace
  | composeRow _ hnext ih =>
      obtain ⟨-, rfl⟩ := composeRow_eq_ok hnext
      exact ih hbehind
  | @present buffers _ _ =>
      rw [geometry_present] at hbehind
      by_cases hcomposed : buffers.composed = true
      · simp only [Buffers.present, if_pos hcomposed, Vector.getElem_ofFn, if_neg hbehind.not_gt]
      · simp only [Buffers.present, if_neg hcomposed, Vector.getElem_replicate]

/-! ## After any edits -/

/-- A line that is refused changes nothing.  Setting a screen up is clearing it. -/
def edit (buffers : Buffers capacity) : Edit → Buffers capacity
  | .setLine line text =>
    match buffers.composeRow line text with
    | .ok next => next
    | .error _ => buffers
  | .clear | .setUp => buffers.clear
  | .present => buffers.present

def after (edits : List Edit) (buffers : Buffers capacity) : Buffers capacity :=
  edits.foldl edit buffers

theorem after_concat (edits : List Edit) (last : Edit) (buffers : Buffers capacity) :
    buffers.after (edits ++ [last]) = (buffers.after edits).edit last :=
  List.foldl_concat ..

/-- What an edit leads to. -/
inductive Edited (buffers : Buffers capacity) : Edit → Buffers capacity → Prop where
  | set {line : UInt8} {text : List UInt8} {next : Buffers capacity}
      (hnext : buffers.composeRow line text = .ok next) : Edited buffers (.setLine line text) next
  | refused {line : UInt8} {text : List UInt8} (hline : ¬ line < buffers.geometry.rows) :
      Edited buffers (.setLine line text) buffers
  | cleared {edit : Edit} (hclears : edit.clears = true) : Edited buffers edit buffers.clear
  | presented : Edited buffers .present buffers.present

theorem edited_edit (buffers : Buffers capacity) (edit : Edit) :
    Edited buffers edit (buffers.edit edit) := by
  cases edit with
  | setLine line text =>
      by_cases hline : line < buffers.geometry.rows
      · rw [Buffers.edit, composeRow_of_lt text hline]
        exact .set (composeRow_of_lt text hline)
      · rw [Buffers.edit, composeRow_of_not_lt text hline]
        exact .refused hline
  | clear => exact .cleared rfl
  | setUp => exact .cleared rfl
  | present => exact .presented

theorem front_edit_setLine (buffers : Buffers capacity) (line : UInt8) (text : List UInt8) :
    (buffers.edit (.setLine line text)).front = buffers.front := by
  have hedited := edited_edit buffers (.setLine line text)
  generalize buffers.edit (.setLine line text) = next at hedited ⊢
  cases hedited with
  | set hnext =>
      obtain ⟨-, rfl⟩ := composeRow_eq_ok hnext
      rfl
  | refused => rfl
  | cleared hclears => contradiction

section

variable {geometry : Geometry} {start : Buffers capacity}

theorem reachable_after (hmake : Buffers.make geometry = .ok start) (edits : List Edit) :
    (start.after edits).Reachable ∧ (start.after edits).geometry = geometry := by
  induction edits using List.reverseRecOn with
  | nil =>
      obtain ⟨-, hstart⟩ := make_eq_ok hmake
      exact ⟨.make hmake, by rw [hstart]; rfl⟩
  | append_singleton earlier last ih =>
      obtain ⟨hreachable, hgeometry⟩ := ih
      rw [after_concat]
      have hedited := edited_edit (start.after earlier) last
      generalize (start.after earlier).edit last = next at hedited ⊢
      cases hedited with
      | set hnext =>
          refine ⟨hreachable.composeRow hnext, ?_⟩
          obtain ⟨-, rfl⟩ := composeRow_eq_ok hnext
          exact hgeometry
      | refused => exact ⟨hreachable, hgeometry⟩
      | cleared => exact ⟨hreachable.clear, hgeometry⟩
      | presented => exact ⟨hreachable.present, (geometry_present _).trans hgeometry⟩

/-- The buffers note whether a line was set since they were last cleared. -/
theorem composed_after_iff (hmake : Buffers.make geometry = .ok start) (edits : List Edit) :
    (start.after edits).composed = true ↔ IsComposed geometry.rows edits := by
  induction edits using List.reverseRecOn with
  | nil =>
      obtain ⟨-, rfl⟩ := make_eq_ok hmake
      simp [after, cleared, IsComposed, Edit.sinceClear]
  | append_singleton earlier last ih =>
      have hgeometry := (reachable_after hmake earlier).2
      rw [after_concat, Edit.isComposed_concat, ← ih]
      have hedited := edited_edit (start.after earlier) last
      generalize (start.after earlier).edit last = next at hedited ⊢
      cases hedited with
      | set hnext =>
          obtain ⟨hline, rfl⟩ := composeRow_eq_ok hnext
          rw [hgeometry] at hline
          simp [Edit.clears, Edit.composes, hline]
      | refused hline =>
          rw [hgeometry] at hline
          simp [Edit.clears, Edit.composes, hline]
      | cleared hclears => simp [clear, Buffers.cleared, hclears]
      | presented => simp [Edit.clears, Edit.composes]

/-- Every row of the back grid is the text last set for it. -/
theorem backRow?_after (hmake : Buffers.make geometry = .ok start) (edits : List Edit) {row : UInt8}
    (hrow : row < geometry.rows) :
    (start.after edits).backRow? row =
      some (rowCells geometry.cols.toNat ((lastText? row edits).getD [])) := by
  obtain ⟨hcheck, hstart⟩ := make_eq_ok hmake
  have hcells : geometry.cells ≤ capacity := (Geometry.check_eq_ok_iff.mp hcheck).2.2
  induction edits using List.reverseRecOn with
  | nil =>
      rw [hstart]
      exact backRow?_cleared hcells hrow
  | append_singleton earlier last ih =>
      have hgeometry := (reachable_after hmake earlier).2
      rw [after_concat, Edit.lastText?_concat]
      have hedited := edited_edit (start.after earlier) last
      generalize start.after earlier = before at hgeometry hedited ih
      subst hgeometry
      generalize before.edit last = next at hedited ⊢
      cases hedited with
      | @set line text _ hnext =>
          rw [backRow?_composeRow hcells hnext hrow (length_rowCells _ _) ih]
          by_cases hline : line = row
          · simp [Edit.clears, Edit.text?, hline]
          · simp [Edit.clears, Edit.text?, hline]
      | @refused line text hline =>
          have hother : line ≠ row := by
            rintro rfl
            exact hline hrow
          rw [ih]
          simp [Edit.clears, Edit.text?, hother]
      | cleared hclears =>
          rw [if_pos hclears]
          exact backRow?_cleared hcells hrow
      | presented =>
          rw [backRow?_present, ih]
          rfl

/-- The front grid is the back grid as it was last shown. -/
theorem front_after_of_shownAfter (hmake : Buffers.make geometry = .ok start) {edits : List Edit}
    {earlier : List Edit} (hshown : ShownAfter geometry.rows earlier edits) :
    (start.after edits).front = (start.after earlier).back := by
  obtain ⟨hcomposed, lines, rfl, hlines⟩ := hshown
  induction lines using List.reverseRecOn with
  | nil =>
      rw [after_concat]
      exact front_present_of_composed ((composed_after_iff hmake earlier).mpr hcomposed)
  | append_singleton before last ih =>
      obtain ⟨line, text, rfl⟩ := hlines last List.mem_concat_self
      rw [← List.cons_append, ← List.append_assoc, after_concat, front_edit_setLine]
      apply ih
      intro edit hmem
      exact hlines edit (List.mem_append_left _ hmem)

theorem front_after_of_not_shownAfter (hmake : Buffers.make geometry = .ok start)
    {edits : List Edit} (hnone : ∀ earlier, ¬ ShownAfter geometry.rows earlier edits) :
    (start.after edits).front = List.replicate geometry.cells 0 := by
  obtain ⟨hcheck, hstart⟩ := make_eq_ok hmake
  have hcells : min geometry.cells capacity = geometry.cells :=
    min_eq_left (Geometry.check_eq_ok_iff.mp hcheck).2.2
  induction edits using List.reverseRecOn with
  | nil =>
      rw [hstart]
      exact (front_cleared geometry).trans (by rw [hcells])
  | append_singleton earlier last ih =>
      have hgeometry := (reachable_after hmake earlier).2
      rw [after_concat]
      cases last with
      | setLine line text =>
          rw [front_edit_setLine]
          apply ih
          intro shown hshown
          exact hnone shown (hshown.concat_setLine line text)
      | clear => rw [edit, clear, hgeometry, front_cleared, hcells]
      | setUp => rw [edit, clear, hgeometry, front_cleared, hcells]
      | present =>
          have hcomposed : ¬ (start.after earlier).composed = true := by
            rw [composed_after_iff hmake]
            intro hcomposed
            exact hnone earlier (Edit.shownAfter_concat_present hcomposed)
          rw [edit, front_present_of_not_composed hcomposed, hgeometry, hcells]

end

/-- Buffers for a grid that fits them hold what was done with them since they were last cleared,
and showing them changes nothing as long as no line was set. -/
theorem history_after {geometry : Geometry} (hcheck : geometry.check capacity = .ok ()) :
    ∃ start : Buffers capacity, Buffers.make geometry = .ok start ∧ ∀ edits : List Edit,
      (∀ row < geometry.rows, (start.after edits).backRow? row =
        some (rowCells geometry.cols.toNat ((lastText? row edits).getD []))) ∧
      (∀ earlier, ShownAfter geometry.rows earlier edits →
        (start.after edits).front = (start.after earlier).back) ∧
      ((∀ earlier, ¬ ShownAfter geometry.rows earlier edits) →
        (start.after edits).front = List.replicate geometry.cells 0) ∧
      ((start.after edits).holdsVariable = true ↔ variableMark ∈ (start.after edits).front) ∧
      (∀ (place : ℕ) (hplace : place < capacity), geometry.cells ≤ place →
        (start.after edits).frontCells[place] = 0) ∧
      (¬ IsComposed geometry.rows edits → (start.after edits).present = start.after edits) := by
  have hmake : Buffers.make geometry = .ok (cleared geometry : Buffers capacity) := by
    rw [make, hcheck]
    rfl
  refine ⟨cleared geometry, hmake, ?_⟩
  intro edits
  obtain ⟨hreachable, hgeometry⟩ := reachable_after hmake edits
  refine ⟨?_, ?_, front_after_of_not_shownAfter hmake, ?_, ?_, ?_⟩
  · intro row hrow
    exact backRow?_after hmake edits hrow
  · intro earlier hshown
    exact front_after_of_shownAfter hmake hshown
  · rw [hreachable.holdsVariable_eq, List.contains_iff_mem]
  · intro place hplace hbehind
    apply hreachable.getElem_frontCells hplace
    rw [hgeometry]
    exact hbehind
  · intro hnone
    apply hreachable.present_eq_self
    rw [← Bool.not_eq_true, composed_after_iff hmake]
    exact hnone

/-- A line set after the screen was shown is not on it yet, and one below the last row is on
neither grid. -/
theorem history_after_of_late_line :
    Geometry.check ⟨3, 2⟩ 8 = .ok () ∧ ∃ start : Buffers 8,
      Buffers.make ⟨3, 2⟩ = .ok start ∧
      (start.after [.setLine 0 [0x61, 0x25], .setLine 2 [0x62], .present,
        .setLine 1 [0x63, 0x64, 0x65, 0x66]]).front =
          (start.after [.setLine 0 [0x61, 0x25], .setLine 2 [0x62]]).back ∧
      (start.after [.setLine 0 [0x61, 0x25], .setLine 2 [0x62], .present,
        .setLine 1 [0x63, 0x64, 0x65, 0x66]]).backRow? 1 = some [0x63, 0x64, 0x65] ∧
      (start.after [.setLine 2 [0x62]]).present = start.after [.setLine 2 [0x62]] := by
  have hcheck : Geometry.check ⟨3, 2⟩ 8 = .ok () := rfl
  obtain ⟨start, hmake, hhistory⟩ := history_after hcheck
  have hlate := hhistory [.setLine 0 [0x61, 0x25], .setLine 2 [0x62], .present,
    .setLine 1 [0x63, 0x64, 0x65, 0x66]]
  have hrefused := hhistory [.setLine 2 [0x62]]
  refine ⟨hcheck, start, hmake, ?_, ?_, ?_⟩
  · apply hlate.2.1
    refine ⟨by decide, [.setLine 1 [0x63, 0x64, 0x65, 0x66]], rfl, ?_⟩
    intro edit hmem
    exact ⟨1, [0x63, 0x64, 0x65, 0x66], List.mem_singleton.mp hmem⟩
  · exact hlate.1 1 (by decide)
  · exact hrefused.2.2.2.2.2 (by decide)

end Buffers

end SplitPanel.Screen

import Mathlib.Order.Lattice
import SplitPanel.Screen.Buffers

/-!
# The states of screen buffers

Buffers only ever come from the four operations on them.  In every state they can be in, the
grid fits into the cells, and the note whether a variable is shown agrees with the front grid.
-/

namespace SplitPanel.Screen.Buffers

variable {capacity : ℕ}

/-- The states that composing, showing and clearing lead to. -/
inductive Reachable : Buffers capacity → Prop where
  | make {geometry : Geometry} {buffers : Buffers capacity}
      (hmake : Buffers.make geometry = .ok buffers) : Reachable buffers
  | clear {buffers : Buffers capacity} (h : Reachable buffers) : Reachable buffers.clear
  | composeRow {buffers next : Buffers capacity} {line : UInt8} {text : List UInt8}
      (h : Reachable buffers) (hnext : buffers.composeRow line text = .ok next) :
      Reachable next
  | present {buffers : Buffers capacity} (h : Reachable buffers) : Reachable buffers.present

theorem composeRow_of_lt {line : UInt8} {buffers : Buffers capacity} (text : List UInt8)
    (hline : line < buffers.geometry.rows) :
    buffers.composeRow line text = .ok { buffers with
      backCells := withRow buffers.geometry line text buffers.backCells
      composed := true } :=
  if_pos hline

theorem composeRow_of_not_lt {line : UInt8} {buffers : Buffers capacity} (text : List UInt8)
    (hline : ¬ line < buffers.geometry.rows) :
    buffers.composeRow line text = .error (.outOfBounds line buffers.geometry.rows) :=
  if_neg hline

/-- A line that was set changed the back cells and the note that there is something to show. -/
theorem composeRow_eq_ok {line : UInt8} {text : List UInt8} {buffers next : Buffers capacity}
    (hnext : buffers.composeRow line text = .ok next) :
    line < buffers.geometry.rows ∧ next = { buffers with
      backCells := withRow buffers.geometry line text buffers.backCells
      composed := true } := by
  by_cases hline : line < buffers.geometry.rows
  · rw [composeRow_of_lt text hline] at hnext
    injection hnext with hnext
    exact ⟨hline, hnext.symm⟩
  · rw [composeRow_of_not_lt text hline] at hnext
    contradiction

theorem make_eq_ok {geometry : Geometry} {buffers : Buffers capacity}
    (hmake : Buffers.make geometry = .ok buffers) :
    geometry.check capacity = .ok () ∧ buffers = cleared geometry := by
  cases hcheck : geometry.check capacity with
  | error fault =>
      simp [make, hcheck, bind, Except.bind] at hmake
  | ok _ =>
      simp only [make, hcheck, bind, Except.bind, pure, Except.pure, Except.ok.injEq] at hmake
      exact ⟨rfl, hmake.symm⟩

/-! ## Geometry -/

@[simp]
theorem geometry_present (buffers : Buffers capacity) :
    buffers.present.geometry = buffers.geometry := by
  rw [present]
  split <;> rfl

/-- The grid of reachable buffers is not empty and fits into their cells. -/
theorem Reachable.fits {buffers : Buffers capacity} (h : buffers.Reachable) :
    buffers.geometry.check capacity = .ok () := by
  induction h with
  | make hmake =>
      obtain ⟨hcheck, rfl⟩ := make_eq_ok hmake
      exact hcheck
  | clear _ ih => exact ih
  | composeRow _ hnext ih =>
      obtain ⟨-, rfl⟩ := composeRow_eq_ok hnext
      exact ih
  | @present buffers _ ih =>
      rw [geometry_present]
      exact ih

theorem Reachable.cells_le {buffers : Buffers capacity} (h : buffers.Reachable) :
    buffers.geometry.cells ≤ capacity :=
  (Geometry.check_eq_ok_iff.mp h.fits).2.2

theorem Reachable.length_front {buffers : Buffers capacity} (h : buffers.Reachable) :
    buffers.front.length = buffers.geometry.cells := by
  rw [front, List.length_take, Vector.length_toList]
  exact min_eq_left h.cells_le

/-! ## The variable note -/

theorem front_cleared (geometry : Geometry) :
    (cleared geometry : Buffers capacity).front =
      List.replicate (min geometry.cells capacity) 0 := by
  simp [front, cleared]

/-- What is shown is the back grid, if a line has been set. -/
theorem front_present_of_composed {buffers : Buffers capacity}
    (hcomposed : buffers.composed = true) : buffers.present.front = buffers.back := by
  rw [present, if_pos hcomposed, front, back]
  apply List.ext_getElem
  · simp
  · intro index hleft hright
    have hindex : index < buffers.geometry.cells := by
      simp only [List.length_take] at hleft
      omega
    simp only [List.getElem_take, Vector.getElem_toList, Vector.getElem_ofFn, if_pos hindex]
    rfl

theorem front_present_of_not_composed {buffers : Buffers capacity}
    (hcomposed : ¬ buffers.composed = true) :
    buffers.present.front = List.replicate (min buffers.geometry.cells capacity) 0 := by
  rw [present, if_neg hcomposed]
  simp [front]

theorem holdsVariable_present (buffers : Buffers capacity) :
    buffers.present.holdsVariable = buffers.present.front.contains variableMark := by
  by_cases hcomposed : buffers.composed = true
  · rw [front_present_of_composed hcomposed, present, if_pos hcomposed]
  · rw [front_present_of_not_composed hcomposed, present, if_neg hcomposed]
    symm
    simp [variableMark]

/-- Whether a variable is shown is always noted as it is. -/
theorem Reachable.holdsVariable_eq {buffers : Buffers capacity} (h : buffers.Reachable) :
    buffers.holdsVariable = buffers.front.contains variableMark := by
  have hcleared : ∀ geometry : Geometry, (cleared geometry : Buffers capacity).holdsVariable =
      (cleared geometry : Buffers capacity).front.contains variableMark := by
    intro geometry
    rw [front_cleared]
    symm
    simp [cleared, variableMark]
  induction h with
  | make hmake =>
      obtain ⟨-, rfl⟩ := make_eq_ok hmake
      exact hcleared _
  | @clear buffers _ _ => exact hcleared buffers.geometry
  | composeRow _ hnext ih =>
      obtain ⟨-, rfl⟩ := composeRow_eq_ok hnext
      exact ih
  | @present buffers _ _ => exact holdsVariable_present buffers

end SplitPanel.Screen.Buffers

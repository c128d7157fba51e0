import Mathlib.Data.List.Chain
import Mathlib.Data.List.Induction
import Mathlib.Data.Nat.Notation

/-!
# Presses and releases

What is done with keys or switches is a list of strokes, the first one first.  All keys are up in
the beginning, so a key that is pressed and released by turns is pressed first, and it is held
when its last stroke is a press.
-/

namespace SplitPanel.Keys

/-- A press or a release.  What keys are told apart by is left open. -/
structure Stroke (κ : Type) where
  key : κ
  pressed : Bool
deriving DecidableEq, Repr

namespace Stroke

variable {κ : Type} [DecidableEq κ]

/-- What was done with one key. -/
def ofKey (key : κ) (strokes : List (Stroke κ)) : List Bool :=
  (strokes.filter fun stroke => stroke.key = key).map Stroke.pressed

def isHeld (key : κ) (strokes : List (Stroke κ)) : Bool :=
  (ofKey key strokes).getLast?.getD false

/-- The key is pressed and released by turns. -/
def Alternates (key : κ) (strokes : List (Stroke κ)) : Prop :=
  (false :: ofKey key strokes).IsChain (· ≠ ·)

instance (key : κ) (strokes : List (Stroke κ)) : Decidable (Alternates key strokes) :=
  inferInstanceAs (Decidable ((false :: ofKey key strokes).IsChain (· ≠ ·)))

theorem ofKey_concat_self (strokes : List (Stroke κ)) (stroke : Stroke κ) :
    ofKey stroke.key (strokes ++ [stroke]) = ofKey stroke.key strokes ++ [stroke.pressed] := by
  simp [ofKey]

theorem ofKey_concat_of_ne {key : κ} {stroke : Stroke κ} (hkey : stroke.key ≠ key)
    (strokes : List (Stroke κ)) : ofKey key (strokes ++ [stroke]) = ofKey key strokes := by
  simp [ofKey, hkey]

theorem isHeld_concat_self (strokes : List (Stroke κ)) (stroke : Stroke κ) :
    isHeld stroke.key (strokes ++ [stroke]) = stroke.pressed := by
  rw [isHeld, ofKey_concat_self, List.getLast?_concat]
  rfl

theorem isHeld_concat_of_ne {key : κ} {stroke : Stroke κ} (hkey : stroke.key ≠ key)
    (strokes : List (Stroke κ)) : isHeld key (strokes ++ [stroke]) = isHeld key strokes := by
  rw [isHeld, ofKey_concat_of_ne hkey, isHeld]

theorem alternates_nil (key : κ) : Alternates key ([] : List (Stroke κ)) :=
  List.isChain_singleton false

theorem alternates_concat_of_ne {key : κ} {stroke : Stroke κ} (hkey : stroke.key ≠ key)
    (strokes : List (Stroke κ)) :
    Alternates key (strokes ++ [stroke]) ↔ Alternates key strokes := by
  rw [Alternates, ofKey_concat_of_ne hkey, Alternates]

/-- The next stroke of a key is a press if the key is up, and a release if it is held. -/
theorem alternates_concat_self (strokes : List (Stroke κ)) (stroke : Stroke κ) :
    Alternates stroke.key (strokes ++ [stroke]) ↔
      Alternates stroke.key strokes ∧ isHeld stroke.key strokes ≠ stroke.pressed := by
  rw [Alternates, ofKey_concat_self, ← List.cons_append, List.isChain_append,
    List.getLast?_cons, Alternates, isHeld]
  simp

theorem Alternates.upTo {key : κ} {strokes earlier : List (Stroke κ)}
    (halternates : Alternates key strokes) (hearlier : earlier <+: strokes) :
    Alternates key earlier := by
  obtain ⟨later, rfl⟩ := hearlier
  rw [Alternates, ofKey, List.filter_append, List.map_append, ← List.cons_append] at halternates
  exact (List.isChain_append.mp halternates).1

theorem forall_alternates_iff {strokes : List (Stroke κ)} :
    (∀ key, Alternates key strokes) ↔ ∀ stroke ∈ strokes, Alternates stroke.key strokes := by
  constructor
  · intro halternates stroke _
    exact halternates stroke.key
  · intro halternates key
    by_cases hkey : ∃ stroke ∈ strokes, stroke.key = key
    · obtain ⟨stroke, hmem, rfl⟩ := hkey
      exact halternates stroke hmem
    · have hnone : ofKey key strokes = [] := by
        rw [ofKey, List.map_eq_nil_iff, List.filter_eq_nil_iff]
        intro stroke hmem hstroke
        exact hkey ⟨stroke, hmem, of_decide_eq_true hstroke⟩
      rw [Alternates, hnone]
      exact List.isChain_singleton false

end Stroke

end SplitPanel.Keys

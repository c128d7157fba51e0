import Mathlib.Data.List.Infix
import SplitPanel.Keys.Selector
import SplitPanel.Proofs.Strokes

/-!
# Selections

A select key makes its screen wait, and the next digit or ordinary key pressed ends that.  So a tag
is set at most once for every stroke of a select key that finds no screen waiting.  These are
presses, as long as every select key is released before the next digit or ordinary key is pressed.
A select key released later makes its screen wait a second time.
-/

namespace SplitPanel.Keys

namespace Key

def isSelect : Key → Bool
  | .tag (.select _) => true
  | _ => false

/-- Digits and ordinary keys end a selection. -/
def isTyped : Key → Bool
  | .tag _ => false
  | .digit _ | .other => true

theorem isSelect_eq_true_iff {key : Key} :
    key.isSelect = true ↔ ∃ screen, key = .tag (.select screen) := by
  constructor
  · intro hselect
    rcases key with (screen | _ | _) | _ | _
    · exact ⟨screen, rfl⟩
    all_goals contradiction
  · rintro ⟨screen, rfl⟩
    rfl

theorem isSelect_eq_false_of_isTyped {key : Key} (htyped : key.isTyped = true) :
    key.isSelect = false := by
  cases key with
  | tag tagKey => contradiction
  | digit tag => rfl
  | other => rfl

theorem ne_select {key : Key} (hselect : key.isSelect = false) (screen : Side) :
    key ≠ .tag (.select screen) := by
  rintro rfl
  contradiction

end Key

def KeyEffect.isSetTag : KeyEffect → Bool
  | .emit (.setTag _ _) => true
  | _ => false

namespace Selector

open Stroke

/-- What a stroke can lead to. -/
inductive Effect (stroke : Stroke Key) (selector : Selector) : Selector × KeyEffect → Prop where
  | selected (screen : Side) (hkey : stroke.key = .tag (.select screen)) :
      Effect stroke selector ({ armed := some screen }, .consumed)
  | typed {effect : KeyEffect} (htyped : stroke.key.isTyped = true)
      (hpressed : stroke.pressed = true)
      (hidle : selector.armed = none → effect = .passThrough) :
      Effect stroke selector (idle, effect)
  | kept {effect : KeyEffect} (hselect : stroke.key.isSelect = false)
      (htyped : stroke.key.isTyped = true → stroke.pressed = false)
      (hset : effect.isSetTag = false) : Effect stroke selector (selector, effect)

theorem effect_process (stroke : Stroke Key) (selector : Selector) :
    Effect stroke selector (selector.process stroke.key stroke.pressed) := by
  obtain ⟨key, pressed⟩ := stroke
  obtain ⟨armed⟩ := selector
  cases key with
  | tag tagKey =>
      cases tagKey with
      | select screen => exact .selected screen rfl
      | increment screen => cases pressed <;> exact .kept rfl nofun rfl
      | decrement screen => cases pressed <;> exact .kept rfl nofun rfl
  | digit tag =>
      cases pressed with
      | false => exact .kept rfl (fun _ => rfl) rfl
      | true =>
          cases armed with
          | none => exact .typed rfl rfl fun _ => rfl
          | some screen => exact .typed rfl rfl nofun
  | other =>
      cases pressed with
      | false => exact .kept rfl (fun _ => rfl) rfl
      | true =>
          cases armed with
          | none => exact .typed rfl rfl fun _ => rfl
          | some screen => exact .typed rfl rfl nofun

theorem armed_process_eq_none {stroke : Stroke Key} {selector : Selector}
    (hselect : stroke.key.isSelect = false)
    (hidle : selector.armed = none ∨ stroke.key.isTyped = true ∧ stroke.pressed = true) :
    (selector.process stroke.key stroke.pressed).1.armed = none := by
  have heffect := effect_process stroke selector
  generalize selector.process stroke.key stroke.pressed = result at heffect ⊢
  cases heffect with
  | selected screen hkey =>
      rw [hkey] at hselect
      contradiction
  | typed => rfl
  | kept _ hup =>
      rcases hidle with hnone | ⟨htyped, hpressed⟩
      · exact hnone
      · rw [hup htyped] at hpressed
        contradiction

/-! ## How often a tag is set -/

/-- Takes strokes one after the other, with what becomes of each. -/
def run : List (Stroke Key) → Selector → Selector × List KeyEffect
  | [], selector => (selector, [])
  | stroke :: later, selector =>
    let (next, effect) := selector.process stroke.key stroke.pressed
    let (last, effects) := run later next
    (last, effect :: effects)

theorem run_singleton (stroke : Stroke Key) (selector : Selector) :
    selector.run [stroke] = ((selector.process stroke.key stroke.pressed).1,
      [(selector.process stroke.key stroke.pressed).2]) :=
  rfl

theorem run_append (strokes later : List (Stroke Key)) (selector : Selector) :
    selector.run (strokes ++ later) =
      (((selector.run strokes).1.run later).1,
        (selector.run strokes).2 ++ ((selector.run strokes).1.run later).2) := by
  induction strokes generalizing selector with
  | nil => rfl
  | cons stroke strokes ih =>
      rw [List.cons_append, run, run]
      dsimp only
      rw [ih, List.cons_append]

theorem run_concat (strokes : List (Stroke Key)) (stroke : Stroke Key) (selector : Selector) :
    (run (strokes ++ [stroke]) selector).1 =
      ((run strokes selector).1.process stroke.key stroke.pressed).1 := by
  rw [run_append]
  rfl

def setTags (strokes : List (Stroke Key)) (selector : Selector) : ℕ :=
  (run strokes selector).2.countP KeyEffect.isSetTag

theorem setTags_cons (stroke : Stroke Key) (later : List (Stroke Key)) (selector : Selector) :
    setTags (stroke :: later) selector =
      setTags later (selector.process stroke.key stroke.pressed).1 +
        if (selector.process stroke.key stroke.pressed).2.isSetTag then 1 else 0 :=
  List.countP_cons

def selectPresses (strokes : List (Stroke Key)) : ℕ :=
  strokes.countP fun stroke => stroke.key.isSelect && stroke.pressed

theorem selectPresses_cons (stroke : Stroke Key) (later : List (Stroke Key)) :
    selectPresses (stroke :: later) =
      selectPresses later + if stroke.key.isSelect && stroke.pressed then 1 else 0 :=
  List.countP_cons

/-- A select key is released when no screen is waiting. -/
def isLate (stroke : Stroke Key) (selector : Selector) : Bool :=
  stroke.key.isSelect && !stroke.pressed && selector.armed.isNone

def lateReleases : List (Stroke Key) → Selector → ℕ
  | [], _ => 0
  | stroke :: later, selector =>
    lateReleases later (selector.process stroke.key stroke.pressed).1 +
      if isLate stroke selector then 1 else 0

def screensWaiting (selector : Selector) : ℕ :=
  if selector.armed.isSome then 1 else 0

theorem lateReleases_concat (strokes : List (Stroke Key)) (stroke : Stroke Key)
    (selector : Selector) :
    lateReleases (strokes ++ [stroke]) selector =
      lateReleases strokes selector + if isLate stroke (run strokes selector).1 then 1 else 0 := by
  induction strokes generalizing selector with
  | nil => rfl
  | cons first later ih =>
      rw [List.cons_append, lateReleases, lateReleases, ih, Nat.add_right_comm]
      rfl

/-- A tag is set only if a screen was waiting, and after that it waits no more. -/
theorem screensWaiting_process_le (stroke : Stroke Key) (selector : Selector) :
    (if (selector.process stroke.key stroke.pressed).2.isSetTag then 1 else 0) +
        screensWaiting (selector.process stroke.key stroke.pressed).1 ≤
      screensWaiting selector + (if stroke.key.isSelect && stroke.pressed then 1 else 0) +
        (if isLate stroke selector then 1 else 0) := by
  have heffect := effect_process stroke selector
  generalize selector.process stroke.key stroke.pressed = result at heffect ⊢
  cases heffect with
  | selected screen hkey =>
      have hselect : stroke.key.isSelect = true := by
        rw [hkey]
        rfl
      rw [isLate, hselect, screensWaiting, screensWaiting]
      cases stroke.pressed <;> cases selector.armed <;> simp [KeyEffect.isSetTag]
  | @typed effect htyped hpressed hidle =>
      have hset : (if effect.isSetTag then 1 else 0) ≤ screensWaiting selector := by
        cases harmed : selector.armed with
        | none =>
            rw [hidle harmed]
            exact Nat.zero_le _
        | some screen =>
            rw [screensWaiting, harmed]
            split
            · exact le_rfl
            · exact Nat.zero_le _
      calc (if effect.isSetTag then 1 else 0) + 0
          ≤ screensWaiting selector := hset
        _ ≤ screensWaiting selector + (_ + _) := Nat.le_add_right _ _
        _ = _ := (Nat.add_assoc _ _ _).symm
  | kept hselect htyped hset =>
      rw [hset, Nat.add_assoc]
      calc 0 + screensWaiting selector
          = screensWaiting selector := Nat.zero_add _
        _ ≤ _ := Nat.le_add_right _ _

theorem setTags_add_screensWaiting_le (strokes : List (Stroke Key)) (selector : Selector) :
    setTags strokes selector + screensWaiting (run strokes selector).1 ≤
      screensWaiting selector + selectPresses strokes + lateReleases strokes selector := by
  induction strokes generalizing selector with
  | nil => exact le_of_eq (Nat.add_comm _ _)
  | cons stroke later ih =>
      have hstroke := screensWaiting_process_le stroke selector
      have hlater := ih (selector.process stroke.key stroke.pressed).1
      have hrun : (run (stroke :: later) selector).1 =
          (run later (selector.process stroke.key stroke.pressed).1).1 := rfl
      rw [hrun, setTags_cons, selectPresses_cons, lateReleases]
      omega

/-- Without a late release, no more tags are set than select keys are pressed. -/
theorem setTags_le_add_lateReleases (strokes : List (Stroke Key)) :
    setTags strokes idle ≤ selectPresses strokes + lateReleases strokes idle := by
  have hbalance := setTags_add_screensWaiting_le strokes idle
  rw [show screensWaiting idle = 0 from rfl, Nat.zero_add] at hbalance
  exact le_trans (Nat.le_add_right _ _) hbalance

/-! ## Select keys that are released in time -/

/-- No digit and no ordinary key is pressed while a select key is held. -/
def SelectsReleasedFirst (strokes : List (Stroke Key)) : Prop :=
  ∀ earlier stroke, earlier ++ [stroke] <+: strokes → stroke.key.isTyped = true →
    stroke.pressed = true → ∀ screen, isHeld (.tag (.select screen)) earlier = false

theorem selectsReleasedFirst_iff_inits {strokes : List (Stroke Key)} :
    SelectsReleasedFirst strokes ↔ ∀ upTo ∈ strokes.inits, ∀ stroke ∈ upTo.getLast?,
      stroke.key.isTyped = true → stroke.pressed = true → ∀ screen ∈ [Side.master, .slave],
        isHeld (.tag (.select screen)) upTo.dropLast = false := by
  constructor
  · intro hreleased upTo hupTo stroke hlast htyped hpressed screen _
    obtain ⟨earlier, rfl⟩ := List.getLast?_eq_some_iff.mp hlast
    rw [List.dropLast_concat]
    exact hreleased earlier stroke ((List.mem_inits _ _).mp hupTo) htyped hpressed screen
  · intro hinits earlier stroke hearlier htyped hpressed screen
    have hscreen : screen ∈ [Side.master, .slave] := by cases screen <;> decide
    have hheld := hinits (earlier ++ [stroke]) ((List.mem_inits _ _).mpr hearlier) stroke
      List.getLast?_concat htyped hpressed screen hscreen
    rwa [List.dropLast_concat] at hheld

instance (strokes : List (Stroke Key)) : Decidable (SelectsReleasedFirst strokes) :=
  decidable_of_iff' _ selectsReleasedFirst_iff_inits

theorem SelectsReleasedFirst.upTo {strokes upTo : List (Stroke Key)}
    (hreleased : SelectsReleasedFirst strokes) (hupTo : upTo <+: strokes) :
    SelectsReleasedFirst upTo :=
  fun earlier stroke hearlier => hreleased earlier stroke (hearlier.trans hupTo)

/-- While a select key is held that was released in time before, a screen is waiting. -/
theorem isSome_armed_of_isHeld {strokes : List (Stroke Key)}
    (hreleased : SelectsReleasedFirst strokes) {screen : Side}
    (hheld : isHeld (.tag (.select screen)) strokes = true) :
    (run strokes idle).1.armed.isSome = true := by
  induction strokes using List.reverseRecOn with
  | nil => contradiction
  | append_singleton strokes stroke ih =>
      have hbefore := ih (hreleased.upTo (List.prefix_append _ _))
      have heffect := effect_process stroke (run strokes idle).1
      rw [run_concat]
      generalize (run strokes idle).1.process stroke.key stroke.pressed = result at heffect ⊢
      cases heffect with
      | selected => rfl
      | typed htyped hpressed =>
          have hselect := Key.isSelect_eq_false_of_isTyped htyped
          have hnone := hreleased strokes stroke List.prefix_rfl htyped hpressed screen
          rw [isHeld_concat_of_ne (Key.ne_select hselect screen), hnone] at hheld
          contradiction
      | kept hselect =>
          rw [isHeld_concat_of_ne (Key.ne_select hselect screen)] at hheld
          exact hbefore hheld

theorem isHeld_of_release {strokes : List (Stroke Key)} {stroke : Stroke Key} {screen : Side}
    (hkey : stroke.key = .tag (.select screen)) (hpressed : stroke.pressed = false)
    (halternates : Alternates (.tag (.select screen)) (strokes ++ [stroke])) :
    isHeld (.tag (.select screen)) strokes = true := by
  rw [← hkey, alternates_concat_self, hpressed] at halternates
  rw [← hkey]
  exact (Bool.not_eq_false _).mp halternates.2

theorem lateReleases_eq_zero {strokes : List (Stroke Key)}
    (halternates : ∀ screen, Alternates (.tag (.select screen)) strokes)
    (hreleased : SelectsReleasedFirst strokes) : lateReleases strokes idle = 0 := by
  induction strokes using List.reverseRecOn with
  | nil => rfl
  | append_singleton strokes stroke ih =>
      have hstrokes : strokes <+: strokes ++ [stroke] := List.prefix_append _ _
      have hbefore := ih (fun screen => (halternates screen).upTo hstrokes)
        (hreleased.upTo hstrokes)
      rw [lateReleases_concat, hbefore, Nat.zero_add, ite_eq_right_iff]
      intro hlate
      simp only [isLate, Bool.and_eq_true, Bool.not_eq_true', Option.isNone_iff_eq_none] at hlate
      obtain ⟨⟨hselect, hpressed⟩, hidle⟩ := hlate
      obtain ⟨screen, hkey⟩ := Key.isSelect_eq_true_iff.mp hselect
      have hheld := isHeld_of_release hkey hpressed (halternates screen)
      have harmed := isSome_armed_of_isHeld (hreleased.upTo hstrokes) hheld
      rw [hidle] at harmed
      contradiction

/-- Once a digit or an ordinary key was pressed, no screen is waiting and no select key is held,
until one is pressed again. -/
theorem idle_after_typed {earlier between : List (Stroke Key)} {typed : Stroke Key}
    (htyped : typed.key.isTyped = true) (hpressed : typed.pressed = true)
    (halternates : ∀ screen, Alternates (.tag (.select screen)) (earlier ++ typed :: between))
    (hreleased : SelectsReleasedFirst (earlier ++ typed :: between))
    (hbetween : selectPresses between = 0) :
    (run (earlier ++ typed :: between) idle).1.armed = none ∧
      ∀ screen, isHeld (.tag (.select screen)) (earlier ++ typed :: between) = false := by
  induction between using List.reverseRecOn with
  | nil =>
      have hselect := Key.isSelect_eq_false_of_isTyped htyped
      constructor
      · rw [run_concat]
        exact armed_process_eq_none hselect (.inr ⟨htyped, hpressed⟩)
      · intro screen
        rw [isHeld_concat_of_ne (Key.ne_select hselect screen)]
        exact hreleased earlier typed List.prefix_rfl htyped hpressed screen
  | append_singleton between stroke ih =>
      rw [← List.cons_append, ← List.append_assoc] at halternates hreleased ⊢
      rw [selectPresses, List.countP_append, Nat.add_eq_zero_iff] at hbetween
      have hstrokes := List.prefix_append (earlier ++ typed :: between) [stroke]
      obtain ⟨hidle, hup⟩ := ih (fun screen => (halternates screen).upTo hstrokes)
        (hreleased.upTo hstrokes) hbetween.1
      have hselect : stroke.key.isSelect = false := by
        rw [← Bool.not_eq_true]
        intro hselect
        obtain ⟨screen, hkey⟩ := Key.isSelect_eq_true_iff.mp hselect
        have hrelease : stroke.pressed = false := by simpa [hselect] using hbetween.2
        have hheld := isHeld_of_release hkey hrelease (halternates screen)
        rw [hup screen] at hheld
        contradiction
      constructor
      · rw [run_concat]
        exact armed_process_eq_none hselect (.inl hidle)
      · intro screen
        rw [isHeld_concat_of_ne (Key.ne_select hselect screen)]
        exact hup screen

/-- As long as the select keys are pressed and released by turns, and every one is released before
the next digit or ordinary key is pressed, no more tags are ever set than select keys were pressed.
Once a digit or an ordinary key was pressed, digits are typed until a select key is pressed
again. -/
theorem setTags_le_selectPresses {strokes : List (Stroke Key)}
    (halternates : ∀ screen, Alternates (.tag (.select screen)) strokes)
    (hreleased : SelectsReleasedFirst strokes) :
    (∀ upTo, upTo <+: strokes → setTags upTo idle ≤ selectPresses upTo) ∧
    (∀ earlier typed between digit, earlier ++ typed :: between ++ [digit] <+: strokes →
      typed.key.isTyped = true → typed.pressed = true → selectPresses between = 0 →
      digit.key.isTyped = true → digit.pressed = true →
      ((run (earlier ++ typed :: between) idle).1.process digit.key digit.pressed).2 =
        .passThrough) := by
  constructor
  · intro upTo hupTo
    have hbound := setTags_le_add_lateReleases upTo
    rwa [lateReleases_eq_zero (fun screen => (halternates screen).upTo hupTo)
      (hreleased.upTo hupTo)] at hbound
  · intro earlier typed between digit hdigit htyped hpressed hbetween hkey hdown
    have hstrokes := (List.prefix_append _ _).trans hdigit
    obtain ⟨hidle, -⟩ := idle_after_typed htyped hpressed
      (fun screen => (halternates screen).upTo hstrokes) (hreleased.upTo hstrokes) hbetween
    have heffect := effect_process digit (run (earlier ++ typed :: between) idle).1
    generalize (run (earlier ++ typed :: between) idle).1.process digit.key digit.pressed = result
      at heffect ⊢
    cases heffect with
    | selected screen hselect =>
        rw [hselect] at hkey
        contradiction
    | typed _ _ hpass => exact hpass hidle
    | kept _ hup =>
        rw [hup hkey] at hdown
        contradiction

/-- A digit is picked while the step key of the other screen is held, and one more is typed. -/
theorem setTags_le_selectPresses_of_step_key_held :
    let select : Key := .tag (.select .slave)
    let step : Key := .tag (.increment .master)
    let strokes : List (Stroke Key) := [⟨select, true⟩, ⟨step, true⟩, ⟨select, false⟩,
      ⟨.digit 4, true⟩, ⟨step, false⟩, ⟨.digit 4, false⟩, ⟨.digit 5, true⟩]
    (run strokes idle).2 = [.consumed, .emit (.increment .master), .consumed,
        .emit (.setTag .slave 4), .consumed, .passThrough, .passThrough] ∧
      setTags strokes idle ≤ selectPresses strokes := by
  intro select step strokes
  have halternates : ∀ screen, Alternates (.tag (.select screen)) strokes := by
    intro screen
    cases screen <;> decide
  have hreleased : SelectsReleasedFirst strokes := by decide
  exact ⟨by decide, (setTags_le_selectPresses halternates hreleased).1 strokes List.prefix_rfl⟩

/-- A select key that is released after its digit makes a second digit set a tag. -/
theorem selectPresses_lt_setTags_of_late_release :
    let select : Key := .tag (.select .master)
    let strokes : List (Stroke Key) :=
      [⟨select, true⟩, ⟨.digit 4, true⟩, ⟨select, false⟩, ⟨.digit 5, true⟩]
    (∀ key, Alternates key strokes) ∧ selectPresses strokes < setTags strokes idle := by
  intro select strokes
  exact ⟨forall_alternates_iff.mpr (by decide), by decide⟩

end Selector

end SplitPanel.Keys

import SplitPanel.Proofs.Selecting

/-!
# What every stroke leads to

The screen that is waiting is the one of the last select key, unless a digit or an ordinary key was
pressed since.  Together with the stroke itself this settles what becomes of every stroke: whether a
tag is picked or stepped, whether the key is swallowed, or whether it is typed.
-/

namespace SplitPanel.Keys

/-- Select keys decide for their screen, pressed or released.  Digits and ordinary keys decide for
none when they are pressed. -/
def Stroke.decides (stroke : Stroke Key) : Bool :=
  stroke.key.isSelect || stroke.key.isTyped && stroke.pressed

/-- The key of the last stroke that decided which screen is waiting. -/
def Stroke.lastDecision (strokes : List (Stroke Key)) : Option Key :=
  (strokes.filter decides).getLast?.map Stroke.key

/-- The keys that step a tag, pressed. -/
def Stroke.steps (stroke : Stroke Key) : Bool :=
  !stroke.key.isSelect && !stroke.key.isTyped && stroke.pressed

/-- The stroke picks a tag for the screen that is waiting. -/
def Stroke.Picks (stroke : Stroke Key) (waiting : Option Side) (screen : Side) (tag : UInt8) :
    Prop :=
  stroke = ⟨.digit tag, true⟩ ∧ tag ≤ 9 ∧ waiting = some screen

namespace Selector

open Stroke

theorem lastDecision_concat_of_decides {stroke : Stroke Key} (hdecides : stroke.decides = true)
    (strokes : List (Stroke Key)) : lastDecision (strokes ++ [stroke]) = some stroke.key := by
  rw [lastDecision, List.filter_append, List.filter_singleton, hdecides, cond_true,
    List.getLast?_concat]
  rfl

theorem lastDecision_concat_of_not_decides {stroke : Stroke Key}
    (hdecides : stroke.decides = false) (strokes : List (Stroke Key)) :
    lastDecision (strokes ++ [stroke]) = lastDecision strokes := by
  rw [lastDecision, List.filter_append, List.filter_singleton, hdecides]
  simp [lastDecision]

/-- A screen is waiting if the last key that decided is the select key of that screen. -/
theorem armed_run_iff {strokes : List (Stroke Key)} {screen : Side} :
    (run strokes idle).1.armed = some screen ↔
      lastDecision strokes = some (.tag (.select screen)) := by
  induction strokes using List.reverseRecOn with
  | nil => exact ⟨nofun, nofun⟩
  | append_singleton strokes stroke ih =>
      have heffect := effect_process stroke (run strokes idle).1
      rw [run_concat]
      generalize (run strokes idle).1.process stroke.key stroke.pressed = result at heffect ⊢
      cases heffect with
      | selected other hkey =>
          have hdecides : stroke.decides = true := by
            rw [decides, hkey]
            rfl
          rw [lastDecision_concat_of_decides hdecides, hkey]
          simp
      | typed htyped hpressed =>
          have hdecides : stroke.decides = true := by
            rw [decides, htyped, hpressed, Bool.and_true, Bool.or_true]
          have hkey := Key.ne_select (Key.isSelect_eq_false_of_isTyped htyped) screen
          rw [lastDecision_concat_of_decides hdecides]
          simp [idle, hkey]
      | kept hselect hup =>
          have hdecides : stroke.decides = false := by
            rw [decides, hselect, Bool.false_or, Bool.and_eq_false_imp]
            exact hup
          rw [lastDecision_concat_of_not_decides hdecides]
          exact ih

/-- What becomes of a stroke while a screen, or none, is waiting. -/
inductive Meaning (waiting : Option Side) (stroke : Stroke Key) : KeyEffect → Prop where
  | picked {screen : Side} {tag : UInt8} (hpicks : stroke.Picks waiting screen tag) :
      Meaning waiting stroke (.emit (.setTag screen tag))
  | incremented {screen : Side} (hstroke : stroke = ⟨.tag (.increment screen), true⟩) :
      Meaning waiting stroke (.emit (.increment screen))
  | decremented {screen : Side} (hstroke : stroke = ⟨.tag (.decrement screen), true⟩) :
      Meaning waiting stroke (.emit (.decrement screen))
  | swallowed (htag : stroke.key.isTyped = false) (hsteps : stroke.steps = false) :
      Meaning waiting stroke .consumed
  | typed (htyped : stroke.key.isTyped = true)
      (hpicks : ¬∃ screen tag, stroke.Picks waiting screen tag) :
      Meaning waiting stroke .passThrough

theorem meaning_process (stroke : Stroke Key) (selector : Selector) :
    Meaning selector.armed stroke (selector.process stroke.key stroke.pressed).2 := by
  obtain ⟨key, pressed⟩ := stroke
  obtain ⟨armed⟩ := selector
  cases key with
  | tag tagKey =>
      cases tagKey with
      | select screen => exact .swallowed rfl rfl
      | increment screen =>
          cases pressed with
          | false => exact .swallowed rfl rfl
          | true => exact .incremented rfl
      | decrement screen =>
          cases pressed with
          | false => exact .swallowed rfl rfl
          | true => exact .decremented rfl
  | digit tag =>
      cases pressed with
      | false => exact .typed rfl (by rintro ⟨_, _, ⟨⟩, -, -⟩)
      | true =>
          cases armed with
          | none => exact .typed rfl (by rintro ⟨_, _, -, -, ⟨⟩⟩)
          | some screen =>
              have hresolve : (process (.digit tag) true { armed := some screen }).2 =
                  if tag ≤ 9 then .emit (.setTag screen tag) else .passThrough := rfl
              rw [hresolve]
              split
              · next htag => exact .picked ⟨rfl, htag, rfl⟩
              · next htag =>
                apply Meaning.typed rfl
                rintro ⟨_, _, ⟨⟩, hsmall, -⟩
                exact htag hsmall
  | other =>
      have hpicks : ¬∃ screen tag, Picks ⟨.other, pressed⟩ armed screen tag := by
        rintro ⟨_, _, ⟨⟩, -, -⟩
      cases pressed with
      | false => exact .typed rfl hpicks
      | true => cases armed <;> exact .typed rfl hpicks

/-- The meanings ask for different keys, or differ in whether a tag is picked. -/
theorem Meaning.unique {waiting : Option Side} {stroke : Stroke Key} {effect other : KeyEffect}
    (hmeaning : Meaning waiting stroke effect) (hother : Meaning waiting stroke other) :
    effect = other := by
  cases hmeaning <;> cases hother <;>
    simp_all [Picks, Stroke.steps, Key.isTyped, Key.isSelect]

/-- Whatever strokes came before: a screen is waiting exactly if the last key that decided is its
select key.  A tag is set exactly by a digit up to 9 that is pressed while a screen is waiting, for
that screen, and it is stepped exactly by the press of a step key, which does not change who is
waiting.  All other strokes of tag keys are swallowed, and all other digits and ordinary keys are
typed. -/
theorem effect_of_every_stroke (strokes : List (Stroke Key)) (stroke : Stroke Key) :
    ∃ effect, (run (strokes ++ [stroke]) idle).2 = (run strokes idle).2 ++ [effect] ∧
      (∀ screen, (run strokes idle).1.armed = some screen ↔
        lastDecision strokes = some (.tag (.select screen))) ∧
      (∀ screen tag, effect = .emit (.setTag screen tag) ↔
        stroke.Picks (run strokes idle).1.armed screen tag) ∧
      (∀ screen, effect = .emit (.increment screen) ↔
        stroke = ⟨.tag (.increment screen), true⟩) ∧
      (∀ screen, effect = .emit (.decrement screen) ↔
        stroke = ⟨.tag (.decrement screen), true⟩) ∧
      (∀ screen pressed,
        (run (strokes ++ [⟨.tag (.increment screen), pressed⟩]) idle).1 = (run strokes idle).1 ∧
        (run (strokes ++ [⟨.tag (.decrement screen), pressed⟩]) idle).1 = (run strokes idle).1) ∧
      (effect = .consumed ↔ stroke.key.isTyped = false ∧ stroke.steps = false) ∧
      (effect = .passThrough ↔ stroke.key.isTyped = true ∧
        ¬∃ screen tag, stroke.Picks (run strokes idle).1.armed screen tag) := by
  have hmeaning := meaning_process stroke (run strokes idle).1
  generalize heffect : ((run strokes idle).1.process stroke.key stroke.pressed).2 = effect
    at hmeaning
  have hrun : (run (strokes ++ [stroke]) idle).2 = (run strokes idle).2 ++ [effect] := by
    rw [run_append, run_singleton, heffect]
  refine ⟨effect, hrun, fun _ => armed_run_iff, ?_, ?_, ?_, ?_, ?_, ?_⟩
  · intro screen tag
    refine ⟨?_, fun hpicks => hmeaning.unique (.picked hpicks)⟩
    rintro rfl
    cases hmeaning with
    | picked hpicks => exact hpicks
  · intro screen
    refine ⟨?_, fun hstroke => hmeaning.unique (.incremented hstroke)⟩
    rintro rfl
    cases hmeaning with
    | incremented hstroke => exact hstroke
  · intro screen
    refine ⟨?_, fun hstroke => hmeaning.unique (.decremented hstroke)⟩
    rintro rfl
    cases hmeaning with
    | decremented hstroke => exact hstroke
  · intro screen pressed
    exact ⟨run_concat .., run_concat ..⟩
  · refine ⟨?_, fun htag => hmeaning.unique (.swallowed htag.1 htag.2)⟩
    rintro rfl
    cases hmeaning with
    | swallowed htag hsteps => exact ⟨htag, hsteps⟩
  · refine ⟨?_, fun htyped => hmeaning.unique (.typed htyped.1 htyped.2)⟩
    rintro rfl
    cases hmeaning with
    | typed htyped hpicks => exact ⟨htyped, hpicks⟩

end Selector

end SplitPanel.Keys

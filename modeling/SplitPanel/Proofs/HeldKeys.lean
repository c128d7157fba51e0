import SplitPanel.Keys.Keymap
import SplitPanel.Proofs.Strokes

/-!
# Held keys

For every held position the keymap remembers the layer that its press was resolved on, so the
release undoes what the press did, whatever other keys did to the layers in between.  A momentary
layer has one bit, however many held keys there are for it: the bit is set by the press of any of
them, and cleared by the release of any of them.
-/

namespace SplitPanel.Keys.Keymap

open Screen (LayerMask)
open Stroke

variable {rows cols : ℕ}

/-! ## Layer masks -/

theorem getLsbD_withLayer (layer : ℕ) (on : Bool) (mask : LayerMask) (other : ℕ) :
    (withLayer layer on mask).getLsbD other =
      if other = layer then on && decide (layer < layerLimit) else mask.getLsbD other := by
  by_cases hother : other < layerLimit
  · by_cases hlayer : other = layer
    · subst hlayer
      cases on <;> simp [withLayer, hother]
    · cases on <;> simp [withLayer, hother, hlayer]
  · have hbeyond : layerLimit ≤ other := Nat.not_lt.mp hother
    rw [BitVec.getLsbD_of_ge _ _ hbeyond, BitVec.getLsbD_of_ge _ _ hbeyond]
    split
    · next hlayer =>
        rw [← hlayer, decide_eq_false hother, Bool.and_false]
    · rfl

theorem layersOn_zero (triLayer : Option TriLayer) : layersOn triLayer 0 = 0 := by
  cases triLayer with
  | none => rfl
  | some tri => simp [layersOn, withLayer]

theorem getLsbD_layersOn {triLayer : Option TriLayer} {layer : ℕ}
    (hadjust : ∀ tri, triLayer = some tri → layer ≠ tri.adjust) (momentary : LayerMask) :
    (layersOn triLayer momentary).getLsbD layer = momentary.getLsbD layer := by
  cases triLayer with
  | none => rfl
  | some tri => rw [layersOn, getLsbD_withLayer, if_neg (hadjust tri rfl)]

theorem getLsbD_layersOn_adjust {tri : TriLayer} (hadjust : tri.adjust < layerLimit)
    (momentary : LayerMask) :
    (layersOn (some tri) momentary).getLsbD tri.adjust =
      (momentary.getLsbD tri.lower && momentary.getLsbD tri.raise) := by
  rw [layersOn, getLsbD_withLayer, if_pos rfl, decide_eq_true hadjust, Bool.and_true]

/-! ## Keymaps that were accepted -/

theorem make_eq_ok {layers : List (Layer rows cols)} {triLayer : Option TriLayer}
    {keymap : Keymap rows cols} (hmake : make layers triLayer = .ok keymap) :
    (keymap = {
      layers, triLayer, momentary := 0, state := 0, held := Grid.replicate rows cols none }) ∧
    layers.length ≤ layerLimit ∧ ∀ named ∈ namedLayers layers triLayer, named < layers.length := by
  rw [make] at hmake
  split at hmake
  · contradiction
  · split at hmake
    · contradiction
    · next hcount =>
      split at hmake
      · contradiction
      · next hnamed =>
        injection hmake with hmake
        refine ⟨hmake.symm, Nat.not_lt.mp hcount, ?_⟩
        intro named hmem
        have hexists := List.find?_eq_none.mp hnamed named hmem
        simpa using hexists

theorem mem_namedLayers_of_entry {layers : List (Layer rows cols)} {actions : Layer rows cols}
    (hmem : actions ∈ layers) {position : Position rows cols} {target : ℕ}
    (hentry : Grid.entry actions position = .momentary target) (triLayer : Option TriLayer) :
    target ∈ namedLayers layers triLayer := by
  unfold namedLayers
  rw [List.mem_append, List.mem_flatMap]
  right
  refine ⟨actions, hmem, ?_⟩
  rw [List.mem_filterMap]
  refine ⟨.momentary target, ?_, rfl⟩
  rw [List.mem_flatMap, ← hentry]
  refine ⟨actions[position.row], ?_, ?_⟩
  · rw [Vector.mem_toList_iff]
    exact Vector.getElem_mem position.row.isLt
  · rw [Vector.mem_toList_iff]
    exact Vector.getElem_mem position.col.isLt

theorem lt_length_of_action {layers : List (Layer rows cols)} {triLayer : Option TriLayer}
    {keymap : Keymap rows cols} (hmake : make layers triLayer = .ok keymap) {layer target : ℕ}
    {position : Position rows cols} (haction : keymap.action layer position = .momentary target) :
    target < layers.length := by
  obtain ⟨rfl, -, hnamed⟩ := make_eq_ok hmake
  apply hnamed
  rw [action] at haction
  split at haction
  · next actions hactions =>
    exact mem_namedLayers_of_entry (List.mem_of_getElem? hactions) haction triLayer
  · contradiction

theorem lt_layerLimit_of_action {layers : List (Layer rows cols)} {triLayer : Option TriLayer}
    {keymap : Keymap rows cols} (hmake : make layers triLayer = .ok keymap) {layer target : ℕ}
    {position : Position rows cols} (haction : keymap.action layer position = .momentary target) :
    target < layerLimit := by
  obtain ⟨-, hcount, -⟩ := make_eq_ok hmake
  exact lt_of_lt_of_le (lt_length_of_action hmake haction) hcount

theorem adjust_lt_layerLimit {layers : List (Layer rows cols)} {tri : TriLayer}
    {keymap : Keymap rows cols} (hmake : make layers (some tri) = .ok keymap) :
    tri.adjust < layerLimit := by
  obtain ⟨-, hcount, hnamed⟩ := make_eq_ok hmake
  apply lt_of_lt_of_le (hnamed tri.adjust ?_) hcount
  simp [namedLayers]

/-! ## What one stroke does -/

/-- What a press of a position does on the layers that are on. -/
def pressAction (keymap : Keymap rows cols) (position : Position rows cols) : Action :=
  keymap.action (keymap.resolve position) position

/-- The keymap after an action was done or undone. -/
def acted (action : Action) (pressed : Bool) (keymap : Keymap rows cols) : Keymap rows cols :=
  match action with
  | .momentary target => keymap.setMomentary target pressed
  | .none | .transparent | .key _ => keymap

theorem perform_eq_acted (layer : ℕ) (position : Position rows cols) (pressed : Bool)
    (keymap : Keymap rows cols) :
    (perform layer position pressed keymap).1 =
      acted (keymap.action layer position) pressed keymap := by
  rw [perform]
  cases keymap.action layer position <;> rfl

/-- Takes a stroke at a row and a column. -/
def call (stroke : Stroke (ℕ × ℕ)) (keymap : Keymap rows cols) : Keymap rows cols :=
  (keymap.process stroke.key.1 stroke.key.2 stroke.pressed).1

/-- What a stroke can lead to. -/
inductive Effect (keymap : Keymap rows cols) : Stroke (ℕ × ℕ) → Keymap rows cols → Prop where
  | outside {stroke : Stroke (ℕ × ℕ)}
      (hplace : ∀ position : Position rows cols, stroke.key ≠ position.place) :
      Effect keymap stroke keymap
  | pressed (position : Position rows cols) :
      Effect keymap ⟨position.place, true⟩ (acted (keymap.pressAction position) true
        { keymap with held := keymap.held.put position (some (keymap.resolve position)) })
  | ignored (position : Position rows cols) (hup : keymap.held.entry position = none) :
      Effect keymap ⟨position.place, false⟩ keymap
  | released (position : Position rows cols) {layer : ℕ}
      (hheld : keymap.held.entry position = some layer) :
      Effect keymap ⟨position.place, false⟩ (acted (keymap.action layer position) false
        { keymap with held := keymap.held.put position none })

theorem call_press (position : Position rows cols) (keymap : Keymap rows cols) :
    keymap.call ⟨position.place, true⟩ = acted (keymap.pressAction position) true
      { keymap with held := keymap.held.put position (some (keymap.resolve position)) } := by
  rw [call, process, Position.make?_place]
  exact perform_eq_acted ..

theorem call_release_of_up {position : Position rows cols} {keymap : Keymap rows cols}
    (hup : keymap.held.entry position = none) :
    keymap.call ⟨position.place, false⟩ = keymap := by
  rw [call, process, Position.make?_place]
  show (keymap.release position).1 = keymap
  rw [release, hup]

theorem call_release_of_held {position : Position rows cols} {keymap : Keymap rows cols}
    {layer : ℕ} (hheld : keymap.held.entry position = some layer) :
    keymap.call ⟨position.place, false⟩ = acted (keymap.action layer position) false
      { keymap with held := keymap.held.put position none } := by
  rw [call, process, Position.make?_place]
  show (keymap.release position).1 = _
  rw [release, hheld]
  exact perform_eq_acted ..

theorem effect_call (stroke : Stroke (ℕ × ℕ)) (keymap : Keymap rows cols) :
    Effect keymap stroke (keymap.call stroke) := by
  obtain ⟨place, pressed⟩ := stroke
  cases hmake : Position.make? rows cols place.1 place.2 with
  | none =>
      rw [call, process, hmake]
      apply Effect.outside
      rintro position rfl
      rw [Position.make?_place] at hmake
      contradiction
  | some position =>
      obtain rfl : position.place = place := Position.place_of_make? hmake
      cases pressed with
      | true =>
          rw [call_press]
          exact .pressed position
      | false =>
          cases hheld : keymap.held.entry position with
          | none =>
              rw [call_release_of_up hheld]
              exact .ignored position hheld
          | some layer =>
              rw [call_release_of_held hheld]
              exact .released position hheld

section Acted

variable (action : Action) (pressed : Bool) (keymap : Keymap rows cols)

@[simp]
theorem layers_acted : (acted action pressed keymap).layers = keymap.layers := by
  cases action <;> rfl

@[simp]
theorem triLayer_acted : (acted action pressed keymap).triLayer = keymap.triLayer := by
  cases action <;> rfl

@[simp]
theorem held_acted : (acted action pressed keymap).held = keymap.held := by
  cases action <;> rfl

theorem getLsbD_momentary_acted (layer : ℕ) :
    (acted action pressed keymap).momentary.getLsbD layer =
      if action = .momentary layer then pressed && decide (layer < layerLimit)
      else keymap.momentary.getLsbD layer := by
  cases action with
  | momentary target =>
      have hmask : (acted (.momentary target) pressed keymap).momentary =
          withLayer target pressed keymap.momentary := rfl
      rw [hmask, getLsbD_withLayer]
      by_cases hlayer : layer = target
      · rw [if_pos hlayer, if_pos (congrArg Action.momentary hlayer.symm), hlayer]
      · rw [if_neg hlayer, if_neg fun htarget => hlayer (Action.momentary.inj htarget).symm]
  | none => rfl
  | transparent => rfl
  | key key => rfl

end Acted

/-! ## After any strokes -/

/-- The layers that are on follow from the momentary ones. -/
def Settled (keymap : Keymap rows cols) : Prop :=
  keymap.state = layersOn keymap.triLayer keymap.momentary

theorem Settled.acted {keymap : Keymap rows cols} (hsettled : keymap.Settled) (action : Action)
    (pressed : Bool) : (acted action pressed keymap).Settled := by
  cases action with
  | momentary target => rfl
  | none | transparent | key key => exact hsettled

def after (strokes : List (Stroke (ℕ × ℕ))) (keymap : Keymap rows cols) : Keymap rows cols :=
  strokes.foldl (fun keymap stroke => keymap.call stroke) keymap

theorem after_concat (strokes : List (Stroke (ℕ × ℕ))) (stroke : Stroke (ℕ × ℕ))
    (keymap : Keymap rows cols) :
    keymap.after (strokes ++ [stroke]) = (keymap.after strokes).call stroke :=
  List.foldl_concat ..

theorem after_append (strokes later : List (Stroke (ℕ × ℕ))) (keymap : Keymap rows cols) :
    keymap.after (strokes ++ later) = (keymap.after strokes).after later :=
  List.foldl_append ..

theorem call_keeps (stroke : Stroke (ℕ × ℕ)) (keymap : Keymap rows cols) :
    (keymap.call stroke).layers = keymap.layers ∧
      (keymap.call stroke).triLayer = keymap.triLayer ∧
      (keymap.Settled → (keymap.call stroke).Settled) := by
  have heffect := effect_call stroke keymap
  generalize keymap.call stroke = next at heffect ⊢
  cases heffect with
  | outside => exact ⟨rfl, rfl, id⟩
  | pressed position =>
      refine ⟨layers_acted .., triLayer_acted .., ?_⟩
      intro hsettled
      apply Settled.acted
      exact hsettled
  | ignored => exact ⟨rfl, rfl, id⟩
  | released position =>
      refine ⟨layers_acted .., triLayer_acted .., ?_⟩
      intro hsettled
      apply Settled.acted
      exact hsettled

theorem layers_after (strokes : List (Stroke (ℕ × ℕ))) (keymap : Keymap rows cols) :
    (keymap.after strokes).layers = keymap.layers := by
  induction strokes using List.reverseRecOn with
  | nil => rfl
  | append_singleton strokes stroke ih => rw [after_concat, (call_keeps stroke _).1, ih]

theorem action_after (strokes : List (Stroke (ℕ × ℕ))) (keymap : Keymap rows cols) :
    (keymap.after strokes).action = keymap.action := by
  funext layer position
  rw [action, action, layers_after]

theorem triLayer_after (strokes : List (Stroke (ℕ × ℕ))) (keymap : Keymap rows cols) :
    (keymap.after strokes).triLayer = keymap.triLayer := by
  induction strokes using List.reverseRecOn with
  | nil => rfl
  | append_singleton strokes stroke ih => rw [after_concat, (call_keeps stroke _).2.1, ih]

theorem Settled.after {keymap : Keymap rows cols} (hsettled : keymap.Settled)
    (strokes : List (Stroke (ℕ × ℕ))) : (keymap.after strokes).Settled := by
  induction strokes using List.reverseRecOn with
  | nil => exact hsettled
  | append_singleton strokes stroke ih =>
      rw [after_concat]
      exact (call_keeps stroke _).2.2 ih

/-- The position was pressed and not released since, and its press was resolved to the action. -/
def HeldAs (keymap : Keymap rows cols) (strokes : List (Stroke (ℕ × ℕ)))
    (position : Position rows cols) (action : Action) : Prop :=
  ∃ earlier later, strokes = earlier ++ ⟨position.place, true⟩ :: later ∧
    (∀ stroke ∈ later, stroke.key ≠ position.place) ∧
    (keymap.after earlier).pressAction position = action

section HeldAs

variable {keymap : Keymap rows cols} {strokes : List (Stroke (ℕ × ℕ))}
  {position : Position rows cols} {action : Action}

theorem not_heldAs_nil : ¬ HeldAs keymap [] position action := by
  rintro ⟨earlier, later, hstrokes, -⟩
  simp at hstrokes

/-- The last stroke of a position decides. -/
theorem heldAs_concat {stroke : Stroke (ℕ × ℕ)} :
    HeldAs keymap (strokes ++ [stroke]) position action ↔
      if stroke.key = position.place then
        stroke.pressed = true ∧ (keymap.after strokes).pressAction position = action
      else HeldAs keymap strokes position action := by
  constructor
  · rintro ⟨earlier, later, hstrokes, hlater, haction⟩
    rcases List.eq_nil_or_concat' later with rfl | ⟨later, last, rfl⟩
    · obtain ⟨rfl, hstroke⟩ := List.append_inj' hstrokes rfl
      obtain rfl := List.singleton_inj.mp hstroke
      rw [if_pos rfl]
      exact ⟨rfl, haction⟩
    · rw [← List.cons_append, ← List.append_assoc] at hstrokes
      obtain ⟨rfl, hstroke⟩ := List.append_inj' hstrokes rfl
      obtain rfl := List.singleton_inj.mp hstroke
      rw [if_neg (hlater stroke (by simp))]
      exact ⟨earlier, later, rfl, fun other hmem => hlater other (by simp [hmem]), haction⟩
  · split
    · next hkey =>
      rintro ⟨hpressed, haction⟩
      obtain ⟨key, pressed⟩ := stroke
      obtain rfl : key = position.place := hkey
      obtain rfl : pressed = true := hpressed
      exact ⟨strokes, [], rfl, by simp, haction⟩
    · next hkey =>
      rintro ⟨earlier, later, rfl, hlater, haction⟩
      refine ⟨earlier, later ++ [stroke], by simp, ?_, haction⟩
      intro other hmem
      rcases List.mem_append.mp hmem with hold | hnew
      · exact hlater other hold
      · rw [List.mem_singleton.mp hnew]
        exact hkey

/-- The layer that is remembered for a position is the one its press was resolved on. -/
theorem heldAs_iff_entry (hstart : keymap.held = Grid.replicate rows cols none) :
    HeldAs keymap strokes position action ↔
      ∃ layer, (keymap.after strokes).held.entry position = some layer ∧
        keymap.action layer position = action := by
  induction strokes using List.reverseRecOn generalizing position action with
  | nil =>
      have hnone : (keymap.after []).held.entry position = none := by
        rw [after, List.foldl_nil, hstart, Grid.entry_replicate]
      simp [hnone, not_heldAs_nil]
  | append_singleton strokes stroke ih =>
      have hactions := action_after strokes keymap
      have heffect := effect_call stroke (keymap.after strokes)
      rw [heldAs_concat, after_concat]
      generalize (keymap.after strokes).call stroke = next at heffect ⊢
      cases heffect with
      | outside hplace => rw [if_neg (hplace position), ih]
      | pressed other =>
          rw [held_acted]
          by_cases hother : position = other
          · subst hother
            rw [if_pos rfl]
            simp [pressAction, hactions]
          · rw [if_neg (Position.place_ne (Ne.symm hother)), ih]
            simp [Grid.entry_put_of_ne hother]
      | ignored other hup =>
          by_cases hother : position = other
          · subst hother
            simp [hup]
          · rw [if_neg (Position.place_ne (Ne.symm hother)), ih]
      | released other hheld =>
          rw [held_acted]
          by_cases hother : position = other
          · subst hother
            simp
          · rw [if_neg (Position.place_ne (Ne.symm hother)), ih]
            simp [Grid.entry_put_of_ne hother]

theorem exists_heldAs_iff :
    (∃ action, HeldAs keymap strokes position action) ↔ isHeld position.place strokes = true := by
  induction strokes using List.reverseRecOn with
  | nil => simp [not_heldAs_nil, isHeld, ofKey]
  | append_singleton strokes stroke ih =>
      by_cases hkey : stroke.key = position.place
      · rw [← hkey, isHeld_concat_self]
        simp [heldAs_concat, hkey]
      · rw [isHeld_concat_of_ne hkey, ← ih]
        simp [heldAs_concat, hkey]

end HeldAs

end SplitPanel.Keys.Keymap

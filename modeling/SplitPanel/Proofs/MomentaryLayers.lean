import SplitPanel.Proofs.HeldKeys

/-!
# Momentary layers

While every position is pressed and released by turns, a momentary layer is on only if a key for
it is held.  The other direction takes more: the first key for a layer that is released turns it
off, even if another one is still held.  A layer is sure to stay on while none of them is released.
-/

namespace SplitPanel.Keys.Keymap

open Stroke

variable {rows cols : ℕ} {layers : List (Layer rows cols)} {triLayer : Option TriLayer}
  {keymap : Keymap rows cols}

theorem settled_of_make (hmake : make layers triLayer = .ok keymap) : keymap.Settled := by
  obtain ⟨rfl, -⟩ := make_eq_ok hmake
  exact (layersOn_zero triLayer).symm

theorem held_of_make (hmake : make layers triLayer = .ok keymap) :
    keymap.held = Grid.replicate rows cols none := by
  obtain ⟨rfl, -⟩ := make_eq_ok hmake
  rfl

theorem state_after (hmake : make layers triLayer = .ok keymap)
    (strokes : List (Stroke (ℕ × ℕ))) :
    (keymap.after strokes).state = layersOn triLayer (keymap.after strokes).momentary := by
  have hsettled := (settled_of_make hmake).after strokes
  rw [Settled, triLayer_after] at hsettled
  obtain ⟨rfl, -⟩ := make_eq_ok hmake
  exact hsettled

/-! ## No layer without a key -/

/-- The key for a layer that is on is the one that was pressed and not released since. -/
theorem exists_heldAs_of_momentary (hmake : make layers triLayer = .ok keymap)
    {strokes : List (Stroke (ℕ × ℕ))}
    (halternates : ∀ position : Position rows cols, Alternates position.place strokes)
    {layer : ℕ} (hon : (keymap.after strokes).momentary.getLsbD layer = true) :
    ∃ position, HeldAs keymap strokes position (.momentary layer) := by
  induction strokes using List.reverseRecOn with
  | nil =>
      obtain ⟨rfl, -⟩ := make_eq_ok hmake
      simp [after] at hon
  | append_singleton strokes stroke ih =>
      -- a key that was held before is held still, unless this is its stroke
      have hkept : (keymap.after strokes).momentary.getLsbD layer = true →
          (∀ holder : Position rows cols, HeldAs keymap strokes holder (.momentary layer) →
            stroke.key ≠ holder.place) →
          ∃ position, HeldAs keymap (strokes ++ [stroke]) position (.momentary layer) := by
        intro hbefore hkeys
        obtain ⟨holder, hholder⟩ := ih (fun position =>
          (halternates position).upTo (List.prefix_append strokes [stroke])) hbefore
        refine ⟨holder, ?_⟩
        rw [heldAs_concat, if_neg (hkeys holder hholder)]
        exact hholder
      have heffect := effect_call stroke (keymap.after strokes)
      rw [after_concat] at hon
      generalize (keymap.after strokes).call stroke = next at heffect hon
      cases heffect with
      | outside hplace =>
          apply hkept hon
          intro holder _
          exact hplace holder
      | pressed position =>
          rw [getLsbD_momentary_acted] at hon
          split at hon
          · next haction =>
            refine ⟨position, ?_⟩
            rw [heldAs_concat, if_pos rfl]
            exact ⟨rfl, haction⟩
          · apply hkept hon
            intro holder hholder hkey
            have hturn := ((alternates_concat_self strokes ⟨position.place, true⟩).mp
              (halternates position)).2
            obtain rfl := Position.place_inj.mp hkey
            exact hturn (exists_heldAs_iff.mp ⟨_, hholder⟩)
      | ignored position hup =>
          apply hkept hon
          intro holder hholder hkey
          obtain rfl := Position.place_inj.mp hkey
          obtain ⟨used, hused, -⟩ := (heldAs_iff_entry (held_of_make hmake)).mp hholder
          rw [hup] at hused
          contradiction
      | released position hheld =>
          rw [getLsbD_momentary_acted, action_after] at hon
          split at hon
          · contradiction
          · next haction =>
            apply hkept hon
            intro holder hholder hkey
            obtain rfl := Position.place_inj.mp hkey
            obtain ⟨used, hused, hmomentary⟩ := (heldAs_iff_entry (held_of_make hmake)).mp hholder
            rw [hheld, Option.some.injEq] at hused
            rw [hused] at haction
            exact haction hmomentary

/-! ## Layers that stay on -/

/-- A momentary layer stays on from a press of a key for it, until a key for it is released. -/
theorem momentary_after_press (hmake : make layers triLayer = .ok keymap)
    {earlier later : List (Stroke (ℕ × ℕ))} {position : Position rows cols} {layer : ℕ}
    (haction : (keymap.after earlier).pressAction position = .momentary layer)
    (hothers : ∀ between (other : Position rows cols),
      between ++ [⟨other.place, false⟩] <+: later →
        ¬ HeldAs keymap (earlier ++ ⟨position.place, true⟩ :: between) other (.momentary layer)) :
    (keymap.after (earlier ++ ⟨position.place, true⟩ :: later)).momentary.getLsbD layer = true := by
  have hlimit : layer < layerLimit := by
    rw [pressAction, action_after] at haction
    exact lt_layerLimit_of_action hmake haction
  induction later using List.reverseRecOn with
  | nil =>
      rw [after_concat, call_press, getLsbD_momentary_acted, if_pos haction, decide_eq_true hlimit]
      rfl
  | append_singleton later stroke ih =>
      have hbefore := ih fun between other hbetween =>
        hothers between other (hbetween.trans (List.prefix_append later [stroke]))
      rw [← List.cons_append, ← List.append_assoc, after_concat]
      have heffect := effect_call stroke (keymap.after (earlier ++ ⟨position.place, true⟩ :: later))
      generalize (keymap.after _).call stroke = next at heffect ⊢
      cases heffect with
      | outside => exact hbefore
      | ignored => exact hbefore
      | pressed other =>
          rw [getLsbD_momentary_acted, decide_eq_true hlimit]
          split
          · rfl
          · exact hbefore
      | @released other used hheld =>
          rw [getLsbD_momentary_acted, action_after]
          split
          · next hmomentary =>
            have hother := (heldAs_iff_entry (held_of_make hmake)).mpr ⟨used, hheld, hmomentary⟩
            exact absurd hother (hothers later other List.prefix_rfl)
          · exact hbefore

/-- A position that was pressed and not released since keeps its layer on, if no other key for
that layer was released since, whatever else was pressed or released.  The layer that a tri-layer
turns on by itself is excepted. -/
theorem layer_on_while_held (hmake : make layers triLayer = .ok keymap)
    {earlier later : List (Stroke (ℕ × ℕ))} {position : Position rows cols} {layer : ℕ}
    (haction : (keymap.after earlier).pressAction position = .momentary layer)
    (hheld : ∀ stroke ∈ later, stroke.key ≠ position.place)
    (hadjust : ∀ tri, triLayer = some tri → layer ≠ tri.adjust)
    (hothers : ∀ between other, other ≠ position → between ++ [⟨other.place, false⟩] <+: later →
      ¬ HeldAs keymap (earlier ++ ⟨position.place, true⟩ :: between) other (.momentary layer)) :
    (keymap.after (earlier ++ ⟨position.place, true⟩ :: later)).state.getLsbD layer = true := by
  rw [state_after hmake, getLsbD_layersOn hadjust]
  apply momentary_after_press hmake haction
  intro between other hbetween
  apply hothers between other ?_ hbetween
  rintro rfl
  exact hheld _ (hbetween.subset (List.mem_append_right _ (List.mem_singleton_self _))) rfl

/-- A layer of two held keys stays on while a key for another layer comes and goes. -/
theorem layer_on_while_held_under_another :
    let keymap : Keymap 1 3 := {
      layers := [#v[#v[.momentary 1, .momentary 1, .momentary 2]],
        #v[#v[.transparent, .transparent, .transparent]], #v[#v[.none, .none, .none]]]
      triLayer := none
      momentary := 0
      state := 0
      held := Grid.replicate 1 3 none }
    let first : Position 1 3 := ⟨0, 0⟩
    let second : Position 1 3 := ⟨0, 1⟩
    let third : Position 1 3 := ⟨0, 2⟩
    let presses : List (Stroke (ℕ × ℕ)) := [⟨second.place, true⟩, ⟨third.place, true⟩]
    let later := presses ++ [⟨third.place, false⟩]
    (keymap.after []).pressAction first = .momentary 1 ∧
      (∀ stroke ∈ later, stroke.key ≠ first.place) ∧
      (keymap.after ([] ++ ⟨first.place, true⟩ :: later)).state.getLsbD 1 = true := by
  intro keymap first second third presses later
  have hmake : make keymap.layers none = .ok keymap := rfl
  have haction : (keymap.after []).pressAction first = .momentary 1 := by decide
  have hheld : ∀ stroke ∈ later, stroke.key ≠ first.place := by decide
  refine ⟨haction, hheld, ?_⟩
  apply layer_on_while_held hmake haction hheld nofun
  intro between other _ hbetween
  rcases List.prefix_concat_iff.mp hbetween with hlast | hearlier
  · obtain ⟨rfl, hstroke⟩ := List.append_inj' hlast rfl
    have hother : other = third := by
      apply Position.place_inj.mp
      exact congrArg Stroke.key (List.singleton_inj.mp hstroke)
    rw [hother, heldAs_iff_entry (held_of_make hmake)]
    decide
  · have hrelease : ⟨other.place, false⟩ ∈ presses := hearlier.subset (by simp)
    simp [presses] at hrelease

/-- Of two held keys for one layer, the first that is released turns it off. -/
theorem layer_off_while_held :
    let keymap : Keymap 1 2 := {
      layers := [#v[#v[.momentary 1, .momentary 1]], #v[#v[.transparent, .transparent]]]
      triLayer := none
      momentary := 0
      state := 0
      held := Grid.replicate 1 2 none }
    let first : Position 1 2 := ⟨0, 0⟩
    let second : Position 1 2 := ⟨0, 1⟩
    let strokes : List (Stroke (ℕ × ℕ)) :=
      [⟨first.place, true⟩, ⟨second.place, true⟩, ⟨second.place, false⟩]
    make keymap.layers none = .ok keymap ∧ (∀ place, Alternates place strokes) ∧
      HeldAs keymap strokes first (.momentary 1) ∧
      (keymap.after strokes).state.getLsbD 1 = false := by
  intro keymap first second strokes
  have hmake : make keymap.layers none = .ok keymap := rfl
  refine ⟨hmake, forall_alternates_iff.mpr (by decide), ?_, by decide⟩
  exact (heldAs_iff_entry rfl).mpr ⟨0, by decide, rfl⟩

end SplitPanel.Keys.Keymap

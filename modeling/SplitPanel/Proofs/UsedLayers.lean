import Mathlib.Order.Bounds.Basic
import Mathlib.Order.Lattice
import SplitPanel.Proofs.MatchedReleases

/-!
# Layers in use

A press uses the highest layer that is on and has something for its position; the name that is shown
belongs to the highest layer that is on.  The first is never above the second, and they are the
same wherever the active layer does not let the position fall through.  Both are searches from
above, and neither leaves the layers there are: a keymap is only accepted if all layers that its
keys name exist, and whatever is pressed after that turns on no other layers.
-/

namespace SplitPanel.Keys

/-- The highest layer of a kind, or the base layer if there is none. -/
def IsHighest (kind : ℕ → Prop) (layer : ℕ) : Prop :=
  IsGreatest {other | kind other} layer ∨ (∀ other, ¬ kind other) ∧ layer = 0

namespace IsHighest

variable {kind : ℕ → Prop} {layer other : ℕ}

theorem le (hlayer : IsHighest kind layer) (hother : kind other) : other ≤ layer := by
  rcases hlayer with hgreatest | ⟨hnone, -⟩
  · exact hgreatest.2 hother
  · exact absurd hother (hnone other)

theorem kind_of_ne_zero (hlayer : IsHighest kind layer) (hzero : layer ≠ 0) : kind layer := by
  rcases hlayer with hgreatest | ⟨-, hbase⟩
  · exact hgreatest.1
  · exact absurd hbase hzero

theorem unique (hlayer : IsHighest kind layer) (hother : IsHighest kind other) :
    layer = other := by
  rcases hlayer with hgreatest | ⟨hnone, hbase⟩
  · rcases hother with hsecond | ⟨hnone, -⟩
    · exact hgreatest.unique hsecond
    · exact absurd hgreatest.1 (hnone layer)
  · rcases hother with hgreatest | ⟨-, hsecond⟩
    · exact absurd hgreatest.1 (hnone other)
    · rw [hbase, hsecond]

end IsHighest

/-- A search from above ends at the highest layer of a kind. -/
theorem isHighest_search (kind : ℕ → Bool) (limit : ℕ) :
    IsHighest (fun layer => layer < limit ∧ kind layer = true)
      (((List.range limit).reverse.find? kind).getD 0) := by
  induction limit with
  | zero => exact .inr ⟨fun layer hlayer => Nat.not_lt_zero layer hlayer.1, rfl⟩
  | succ limit ih =>
      rw [List.range_succ, List.reverse_concat, List.find?_cons]
      cases hkind : kind limit with
      | true =>
          apply Or.inl
          refine ⟨⟨Nat.lt_succ_self limit, hkind⟩, ?_⟩
          intro layer hlayer
          exact Nat.le_of_lt_succ hlayer.1
      | false =>
          have hsame : (fun layer => layer < limit + 1 ∧ kind layer = true) =
              fun layer => layer < limit ∧ kind layer = true := by
            funext layer
            apply propext
            constructor
            · rintro ⟨hlt, hlayer⟩
              apply And.intro _ hlayer
              apply lt_of_le_of_ne (Nat.le_of_lt_succ hlt)
              rintro rfl
              rw [hkind] at hlayer
              contradiction
            · rintro ⟨hlt, hlayer⟩
              exact ⟨Nat.lt_succ_of_lt hlt, hlayer⟩
          rw [hsame]
          exact ih

end SplitPanel.Keys

/-! ## The active layer -/

namespace SplitPanel.Screen.LayerMask

open Keys (IsHighest isHighest_search)

theorem isHighest_highest (mask : LayerMask) :
    IsHighest (fun layer => mask.getLsbD layer = true) mask.highest := by
  have hsearch := isHighest_search (fun layer => mask.getLsbD layer) 32
  have hsame : (fun layer => layer < 32 ∧ mask.getLsbD layer = true) =
      fun layer => mask.getLsbD layer = true := by
    funext layer
    apply propext
    exact and_iff_right_of_imp fun hon => BitVec.lt_of_getLsbD hon
  rw [hsame] at hsearch
  exact hsearch

/-- The active layer is also found by counting the zeros in front of the highest bit. -/
theorem highest_eq_sub_clz (mask : LayerMask) : mask.highest = 31 - mask.clz.toNat := by
  apply mask.isHighest_highest.unique
  by_cases hzero : mask = 0
  · subst hzero
    exact .inr ⟨fun layer => by simp, by decide⟩
  · have hpos : 0 < 32 := by decide
    refine .inl ⟨BitVec.getLsbD_true_clz_of_ne_zero hpos hzero, ?_⟩
    intro layer hlayer
    have hle : 2 ^ layer ≤ mask.toNat := Nat.ge_two_pow_of_testBit hlayer
    have hlt : layer < 32 - mask.clz.toNat := by
      apply (Nat.pow_lt_pow_iff_right (Nat.lt_succ_self 1)).mp
      exact lt_of_le_of_lt hle BitVec.toNat_lt_two_pow_sub_clz
    omega

end SplitPanel.Screen.LayerMask

namespace SplitPanel.Keys.Keymap

open Screen (NamedLayers)

variable {rows cols : ℕ} {layers : List (Layer rows cols)} {triLayer : Option TriLayer}
  {keymap : Keymap rows cols}

/-! ## Layers that there are -/

/-- Only the first so many layers are on or remembered for a held position. -/
structure Within (count : ℕ) (keymap : Keymap rows cols) : Prop where
  momentary : ∀ layer, keymap.momentary.getLsbD layer = true → layer < count
  held : ∀ position layer, keymap.held.entry position = some layer → layer < count

/-- Keys that name no other layers, and searches that find no others, keep it so. -/
theorem Within.call {count : ℕ} (hwithin : keymap.Within count)
    (htargets : ∀ layer position target,
      keymap.action layer position = .momentary target → target < count)
    (hfound : ∀ position, keymap.resolve position < count) (stroke : Stroke (ℕ × ℕ)) :
    (keymap.call stroke).Within count := by
  have hheld : ∀ {position : Position rows cols} {entry : Option ℕ},
      (∀ layer, entry = some layer → layer < count) →
      ∀ other layer, (keymap.held.put position entry).entry other = some layer →
        layer < count := by
    intro position entry hentry other layer hlayer
    by_cases hother : other = position
    · rw [hother, Grid.entry_put_self] at hlayer
      exact hentry layer hlayer
    · rw [Grid.entry_put_of_ne hother] at hlayer
      exact hwithin.held other layer hlayer
  have heffect := effect_call stroke keymap
  generalize keymap.call stroke = next at heffect ⊢
  cases heffect with
  | outside => exact hwithin
  | ignored => exact hwithin
  | pressed position =>
      constructor
      · intro layer hon
        rw [getLsbD_momentary_acted] at hon
        split at hon
        · next haction => exact htargets _ position layer haction
        · exact hwithin.momentary layer hon
      · rw [held_acted]
        apply hheld
        rintro layer ⟨⟩
        exact hfound position
  | released position =>
      constructor
      · intro layer hon
        rw [getLsbD_momentary_acted] at hon
        split at hon
        · contradiction
        · exact hwithin.momentary layer hon
      · rw [held_acted]
        apply hheld
        rintro layer ⟨⟩

theorem length_pos_of_make (hmake : make layers triLayer = .ok keymap) : 0 < layers.length := by
  rw [List.length_pos_iff]
  rintro rfl
  contradiction

theorem resolve_lt_length (hsome : 0 < keymap.layers.length) (position : Position rows cols) :
    keymap.resolve position < keymap.layers.length := by
  have hsearch := isHighest_search (fun layer => decide (layer ≠ 0 ∧
    keymap.state.getLsbD layer ∧ keymap.action layer position ≠ .transparent)) keymap.layers.length
  by_cases hbase : keymap.resolve position = 0
  · rw [hbase]
    exact hsome
  · exact (hsearch.kind_of_ne_zero hbase).1

theorem within_after (hmake : make layers triLayer = .ok keymap)
    (strokes : List (Stroke (ℕ × ℕ))) : (keymap.after strokes).Within layers.length := by
  have hlayers : keymap.layers = layers := by
    rw [(make_eq_ok hmake).1]
  induction strokes using List.reverseRecOn with
  | nil =>
      constructor
      · intro layer hon
        rw [(make_eq_ok hmake).1] at hon
        simp [after] at hon
      · intro position layer hheld
        rw [after, List.foldl_nil, held_of_make hmake, Grid.entry_replicate] at hheld
        contradiction
  | append_singleton strokes stroke ih =>
      rw [after_concat]
      apply ih.call
      · intro layer position target haction
        rw [action_after] at haction
        exact lt_length_of_action hmake haction
      · intro position
        have hcount : (keymap.after strokes).layers.length = layers.length := by
          rw [layers_after, hlayers]
        rw [← hcount]
        apply resolve_lt_length
        rw [hcount]
        exact length_pos_of_make hmake

theorem lt_length_of_triLayer (hmake : make layers triLayer = .ok keymap) {tri : TriLayer}
    (htri : triLayer = some tri) {layer : ℕ} (hlayer : layer ∈ [tri.lower, tri.raise, tri.adjust]) :
    layer < layers.length := by
  subst htri
  apply (make_eq_ok hmake).2.2
  exact List.mem_append_left _ hlayer

theorem lt_length_of_state (hmake : make layers triLayer = .ok keymap)
    {strokes : List (Stroke (ℕ × ℕ))} {layer : ℕ}
    (hon : (keymap.after strokes).state.getLsbD layer = true) : layer < layers.length := by
  rw [state_after hmake] at hon
  by_cases hadjust : ∃ tri, triLayer = some tri ∧ layer = tri.adjust
  · obtain ⟨tri, htri, rfl⟩ := hadjust
    apply lt_length_of_triLayer hmake htri
    simp
  · rw [getLsbD_layersOn] at hon
    · exact (within_after hmake strokes).momentary layer hon
    · intro tri htri hlayer
      exact hadjust ⟨tri, htri, hlayer⟩

/-! ## The layer of a press -/

/-- A layer above the base layer that is on and does not let a position fall through. -/
def Catches (keymap : Keymap rows cols) (position : Position rows cols) (layer : ℕ) : Prop :=
  0 < layer ∧ keymap.state.getLsbD layer = true ∧ keymap.action layer position ≠ .transparent

theorem isHighest_resolve
    (hstate : ∀ layer, keymap.state.getLsbD layer = true → layer < keymap.layers.length)
    (position : Position rows cols) :
    IsHighest (keymap.Catches position) (keymap.resolve position) := by
  have hsearch := isHighest_search (fun layer => decide (layer ≠ 0 ∧
    keymap.state.getLsbD layer ∧ keymap.action layer position ≠ .transparent)) keymap.layers.length
  have hsame : (fun layer => layer < keymap.layers.length ∧ decide (layer ≠ 0 ∧
      keymap.state.getLsbD layer ∧ keymap.action layer position ≠ .transparent) = true) =
      keymap.Catches position := by
    funext layer
    apply propext
    rw [Catches, decide_eq_true_iff, Nat.pos_iff_ne_zero]
    exact and_iff_right_of_imp fun hcatches => hstate layer hcatches.2.1
  rw [hsame] at hsearch
  exact hsearch

theorem resolve_le_highest
    (hstate : ∀ layer, keymap.state.getLsbD layer = true → layer < keymap.layers.length)
    (position : Position rows cols) : keymap.resolve position ≤ keymap.state.highest := by
  by_cases hbase : keymap.resolve position = 0
  · rw [hbase]
    exact Nat.zero_le _
  · apply keymap.state.isHighest_highest.le
    exact ((isHighest_resolve hstate position).kind_of_ne_zero hbase).2.1

/-- A press uses the active layer unless the position falls through there. -/
theorem resolve_eq_highest
    (hstate : ∀ layer, keymap.state.getLsbD layer = true → layer < keymap.layers.length)
    {position : Position rows cols}
    (hcaught : keymap.action keymap.state.highest position ≠ .transparent) :
    keymap.resolve position = keymap.state.highest := by
  apply le_antisymm (resolve_le_highest hstate position)
  by_cases hbase : keymap.state.highest = 0
  · rw [hbase]
    exact Nat.zero_le _
  · apply (isHighest_resolve hstate position).le
    exact ⟨Nat.pos_of_ne_zero hbase,
      keymap.state.isHighest_highest.kind_of_ne_zero hbase, hcaught⟩

/-- After any strokes all layers that are on, remembered for a held position or named by a key are
among those of the keymap, which a mask has bits for.  A press is performed on the highest layer
that is on and does not let the position fall through, or else on the base layer.  The layer whose
name is shown is the highest one that is on; it is never below the layer of the press, and it is
that layer unless the position falls through on it. -/
theorem press_uses_layer_shown (hmake : make layers triLayer = .ok keymap)
    (strokes : List (Stroke (ℕ × ℕ))) :
    let now := keymap.after strokes
    (now.layers = layers ∧ 0 < layers.length ∧ layers.length ≤ layerLimit) ∧
    (∀ layer, now.state.getLsbD layer = true ∨ now.momentary.getLsbD layer = true →
      layer < layers.length) ∧
    (∀ position layer, now.held.entry position = some layer → layer < layers.length) ∧
    (∀ layer position target, now.action layer position = .momentary target →
      target < layers.length) ∧
    (∀ tri, now.triLayer = some tri → ∀ layer ∈ [tri.lower, tri.raise, tri.adjust],
      layer < layers.length) ∧
    ∀ position : Position rows cols, ∃ used,
      now.process position.place.1 position.place.2 true =
        perform used position true { now with held := now.held.put position (some used) } ∧
      used < layers.length ∧
      IsHighest (now.Catches position) used ∧
      ∀ names, let shown : NamedLayers := { names, state := now.state }
        IsHighest (fun layer => now.state.getLsbD layer = true) shown.active ∧
        shown.active = 31 - now.state.clz.toNat ∧
        used ≤ shown.active ∧
        (now.action shown.active position ≠ .transparent →
          used = shown.active ∧ shown.nameOfActive? = names[used]?) := by
  intro now
  have hlayers : now.layers = layers := by
    rw [layers_after, (make_eq_ok hmake).1]
  have hstate : ∀ layer, now.state.getLsbD layer = true → layer < now.layers.length := by
    intro layer hon
    rw [hlayers]
    exact lt_length_of_state hmake hon
  have hwithin := within_after hmake strokes
  refine ⟨⟨hlayers, length_pos_of_make hmake, (make_eq_ok hmake).2.1⟩, ?_, hwithin.held, ?_, ?_, ?_⟩
  · rintro layer (hon | hon)
    · exact lt_length_of_state hmake hon
    · exact hwithin.momentary layer hon
  · intro layer position target haction
    rw [action_after] at haction
    exact lt_length_of_action hmake haction
  · intro tri htri layer hlayer
    rw [triLayer_after, (make_eq_ok hmake).1] at htri
    exact lt_length_of_triLayer hmake htri hlayer
  · intro position
    refine ⟨now.resolve position, process_place .., ?_, isHighest_resolve hstate position, ?_⟩
    · rw [← hlayers]
      apply resolve_lt_length
      rw [hlayers]
      exact length_pos_of_make hmake
    · intro names shown
      refine ⟨now.state.isHighest_highest, now.state.highest_eq_sub_clz,
        resolve_le_highest hstate position, ?_⟩
      intro hcaught
      have hused : now.resolve position = shown.active := resolve_eq_highest hstate hcaught
      rw [hused]
      exact ⟨rfl, rfl⟩

/-- Two held keys turn on a third layer, and a press uses the key that it has. -/
theorem press_uses_layer_shown_of_tri_layer :
    let keymap : Keymap 1 3 := {
      layers := [
        #v[#v[.momentary 1, .momentary 2, .key .other]],
        #v[#v[.transparent, .transparent, .key (.digit 1)]],
        #v[#v[.transparent, .transparent, .transparent]],
        #v[#v[.none, .none, .key (.digit 3)]]]
      triLayer := some { lower := 1, raise := 2, adjust := 3 }
      momentary := 0
      state := 0
      held := Grid.replicate 1 3 none }
    let now := keymap.after [⟨(0, 0), true⟩, ⟨(0, 1), true⟩]
    let shown : NamedLayers :=
      { names := ["Default", "Lower", "Raise", "Adjust"], state := now.state }
    let position : Position 1 3 := ⟨0, 2⟩
    make keymap.layers keymap.triLayer = .ok keymap ∧ now.momentary = 6 ∧ now.state = 14 ∧
      (now.process 0 2 true).2 = some (.digit 3) ∧
      now.process 0 2 true =
        perform 3 position true { now with held := now.held.put position (some 3) } ∧
      shown.nameOfActive? = some "Adjust" := by
  intro keymap now shown position
  have hmake : make keymap.layers keymap.triLayer = .ok keymap := rfl
  obtain ⟨-, -, -, -, -, hpress⟩ := press_uses_layer_shown hmake [⟨(0, 0), true⟩, ⟨(0, 1), true⟩]
  obtain ⟨used, hprocess, -, -, hnames⟩ := hpress position
  obtain ⟨-, -, -, hcaught⟩ := hnames shown.names
  obtain ⟨hused, hname⟩ := hcaught (by decide)
  obtain rfl : used = 3 := hused.trans (by decide)
  exact ⟨hmake, by decide, by decide, by decide, hprocess, hname⟩

end SplitPanel.Keys.Keymap

import SplitPanel.Proofs.MomentaryLayers

/-!
# Releases and their presses

The release of a position gives the key that its last press gave, although layers may have come and
gone in between: the layer that is remembered for a held position is the one its press was resolved
on, and what the layers hold never changes.  A release that has no press to go with gives no key and
leaves the keymap as it is, and so does every stroke outside the matrix.
-/

namespace SplitPanel.Keys.Keymap

variable {rows cols : ℕ}

/-- The key that an action gives. -/
def keyOf? : Action → Option Key
  | .key key => some key
  | .none | .transparent | .momentary _ => none

/-! ## What one stroke gives -/

section OneStroke

variable (position : Position rows cols) (keymap : Keymap rows cols)

theorem perform_snd (layer : ℕ) (pressed : Bool) :
    (perform layer position pressed keymap).2 = keyOf? (keymap.action layer position) := by
  rw [perform]
  cases keymap.action layer position <;> rfl

theorem press_snd : (keymap.press position).2 = keyOf? (keymap.pressAction position) :=
  perform_snd ..

theorem release_snd_of_held {layer : ℕ} (hheld : keymap.held.entry position = some layer) :
    (keymap.release position).2 = keyOf? (keymap.action layer position) := by
  rw [release, hheld]
  exact perform_snd ..

theorem release_of_up (hup : keymap.held.entry position = none) :
    keymap.release position = (keymap, none) := by
  rw [release, hup]

theorem process_place (pressed : Bool) :
    keymap.process position.place.1 position.place.2 pressed =
      if pressed then keymap.press position else keymap.release position := by
  rw [process, Position.make?_place]

theorem process_of_outside {row col : ℕ} (houtside : ¬ (row < rows ∧ col < cols))
    (pressed : Bool) : keymap.process row col pressed = (keymap, none) := by
  rw [process, Position.make?, dif_neg houtside]

end OneStroke

/-! ## After any strokes -/

section AfterStrokes

variable {layers : List (Layer rows cols)} {triLayer : Option TriLayer} {keymap : Keymap rows cols}
  {position : Position rows cols}

/-- The release gives what the press gave, if nothing was done with the position in between. -/
theorem release_snd_after (hmake : make layers triLayer = .ok keymap)
    {earlier between : List (Stroke (ℕ × ℕ))}
    (hbetween : ∀ stroke ∈ between, stroke.key ≠ position.place) :
    ((keymap.after (earlier ++ ⟨position.place, true⟩ :: between)).release position).2 =
      ((keymap.after earlier).press position).2 := by
  have hheld : HeldAs keymap (earlier ++ ⟨position.place, true⟩ :: between) position
      ((keymap.after earlier).pressAction position) :=
    ⟨earlier, between, rfl, hbetween, rfl⟩
  obtain ⟨layer, hentry, haction⟩ := (heldAs_iff_entry (held_of_make hmake)).mp hheld
  calc ((keymap.after (earlier ++ ⟨position.place, true⟩ :: between)).release position).2
      = keyOf? (keymap.action layer position) := by
        rw [release_snd_of_held _ _ hentry, action_after]
    _ = keyOf? ((keymap.after earlier).pressAction position) := by rw [haction]
    _ = ((keymap.after earlier).press position).2 := (press_snd ..).symm

/-- No layer is remembered for a position without a press that was not released since. -/
theorem entry_after_of_up (hmake : make layers triLayer = .ok keymap)
    {strokes : List (Stroke (ℕ × ℕ))}
    (hup : ¬ ∃ earlier between, strokes = earlier ++ ⟨position.place, true⟩ :: between ∧
      ∀ stroke ∈ between, stroke.key ≠ position.place) :
    (keymap.after strokes).held.entry position = none := by
  rw [Option.eq_none_iff_forall_ne_some]
  intro layer hentry
  obtain ⟨earlier, between, hstrokes, hbetween, -⟩ :=
    (heldAs_iff_entry (held_of_make hmake)).mpr ⟨layer, hentry, rfl⟩
  exact hup ⟨earlier, between, hstrokes, hbetween⟩

end AfterStrokes

/-- After any strokes, wherever they were and however often a position was pressed in a row: the
release of a position gives the key that its last press gave, whatever was done elsewhere in
between.  A release without a press, or with one that was released before, gives no key and changes
nothing, and neither does any stroke outside the matrix. -/
theorem releases_match_presses {layers : List (Layer rows cols)} {triLayer : Option TriLayer}
    {keymap : Keymap rows cols} (hmake : make layers triLayer = .ok keymap) :
    (∀ (earlier between : List (Stroke (ℕ × ℕ))) (row col : ℕ),
      (∀ stroke ∈ between, stroke.key ≠ (row, col)) →
      ((keymap.after (earlier ++ ⟨(row, col), true⟩ :: between)).process row col false).2 =
        ((keymap.after earlier).process row col true).2) ∧
    (∀ (strokes : List (Stroke (ℕ × ℕ))) (row col : ℕ),
      (¬ ∃ earlier between, strokes = earlier ++ ⟨(row, col), true⟩ :: between ∧
        ∀ stroke ∈ between, stroke.key ≠ (row, col)) →
      (keymap.after strokes).process row col false = (keymap.after strokes, none)) ∧
    (∀ (strokes : List (Stroke (ℕ × ℕ))) (row col : ℕ) (pressed : Bool),
      ¬ (row < rows ∧ col < cols) →
      (keymap.after strokes).process row col pressed = (keymap.after strokes, none)) := by
  refine ⟨?_, ?_, ?_⟩
  · intro earlier between row col hbetween
    by_cases hinside : row < rows ∧ col < cols
    · obtain ⟨position, rfl, rfl⟩ := Position.exists_of_inside hinside
      rw [process_place, process_place]
      exact release_snd_after hmake hbetween
    · rw [process_of_outside _ hinside, process_of_outside _ hinside]
  · intro strokes row col hup
    by_cases hinside : row < rows ∧ col < cols
    · obtain ⟨position, rfl, rfl⟩ := Position.exists_of_inside hinside
      rw [process_place]
      exact release_of_up _ _ (entry_after_of_up hmake hup)
    · exact process_of_outside _ hinside false
  · intro strokes row col pressed houtside
    exact process_of_outside _ houtside pressed

/-- A key is released after the layer on which it was pressed has gone.  The base layer, which a
press would be resolved on by then, has another key for it. -/
theorem releases_match_presses_of_layer_gone :
    let keymap : Keymap 1 2 := {
      layers := [#v[#v[.momentary 1, .key .other]], #v[#v[.transparent, .key (.digit 3)]]]
      triLayer := none
      momentary := 0
      state := 0
      held := Grid.replicate 1 2 none }
    let strokes : List (Stroke (ℕ × ℕ)) := [⟨(0, 0), true⟩, ⟨(0, 1), true⟩, ⟨(0, 0), false⟩]
    make keymap.layers none = .ok keymap ∧
      ((keymap.after strokes).process 0 1 true).2 = some .other ∧
      ((keymap.after strokes).process 0 1 false).2 = some (.digit 3) ∧
      (keymap.after []).process 0 1 false = (keymap, none) ∧
      (keymap.after strokes).process 0 2 true = (keymap.after strokes, none) := by
  intro keymap strokes
  have hmake : make keymap.layers none = .ok keymap := rfl
  obtain ⟨hmatched, hunmatched, houtside⟩ := releases_match_presses hmake
  have hpressed : ((keymap.after [⟨(0, 0), true⟩]).process 0 1 true).2 = some (.digit 3) := by
    decide
  refine ⟨hmake, by decide, ?_, hunmatched [] 0 1 (by simp), houtside strokes 0 2 true (by decide)⟩
  exact (hmatched [⟨(0, 0), true⟩] [⟨(0, 0), false⟩] 0 1 (by decide)).trans hpressed

end SplitPanel.Keys.Keymap

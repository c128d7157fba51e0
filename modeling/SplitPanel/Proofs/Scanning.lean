import Mathlib.Data.List.FinRange
import SplitPanel.Keys.Scanner
import SplitPanel.Proofs.Debouncing
import SplitPanel.Proofs.MomentaryLayers

/-!
# Scanned switches

Sampling a row is sampling its switches from left to right.  A debouncer reports a change only to
the state that it was not in, so every switch is pressed and released by turns, whatever the samples
are and whenever they were taken.  No layer is therefore on without a switch that holds it.
-/

namespace SplitPanel.Keys

open Stroke

variable {rows cols : ℕ}

/-! ## Debouncers -/

/-- A debouncer that reports a change has changed to the other state, and one that does not has
not changed. -/
theorem Debouncer.sample_cases (raw : Bool) (now : ℕ) (debouncer : Debouncer) :
    ((debouncer.sample raw now).2 = none ∧
      (debouncer.sample raw now).1.pressed = debouncer.pressed) ∨
    ∃ pressed, (debouncer.sample raw now).2 = some pressed ∧
      debouncer.pressed ≠ pressed ∧ (debouncer.sample raw now).1.pressed = pressed := by
  have heffect := effect_sample debouncer { raw, now }
  dsimp only at heffect
  generalize debouncer.sample raw now = result at heffect ⊢
  cases heffect with
  | agreed | opened | ignored | dropped => exact .inl ⟨rfl, rfl⟩
  | flipped _ _ hraw => exact .inr ⟨raw, rfl, Ne.symm hraw, rfl⟩

/-! ## Samples -/

/-- A sample of one switch. -/
structure Sample (rows cols : ℕ) where
  position : Position rows cols
  raw : Bool
  now : ℕ

namespace Sample

/-- The debouncer after a sample, with the change if there is one. -/
def outcome (sample : Sample rows cols) (debouncers : Grid rows cols Debouncer) :
    Debouncer × Option Bool :=
  (debouncers.entry sample.position).sample sample.raw sample.now

def strokes (sample : Sample rows cols) (debouncers : Grid rows cols Debouncer) :
    List (Stroke (ℕ × ℕ)) :=
  (sample.outcome debouncers).2.toList.map fun pressed => { key := sample.position.place, pressed }

theorem outcome_put_of_ne {sample : Sample rows cols} {position : Position rows cols}
    (hposition : sample.position ≠ position) (debouncer : Debouncer)
    (debouncers : Grid rows cols Debouncer) :
    sample.outcome (debouncers.put position debouncer) = sample.outcome debouncers := by
  rw [outcome, Grid.entry_put_of_ne hposition, outcome]

theorem strokes_put_of_ne {sample : Sample rows cols} {position : Position rows cols}
    (hposition : sample.position ≠ position) (debouncer : Debouncer)
    (debouncers : Grid rows cols Debouncer) :
    sample.strokes (debouncers.put position debouncer) = sample.strokes debouncers := by
  rw [strokes, outcome_put_of_ne hposition, strokes]

/-- Puts the outcomes of samples into a grid. -/
def putOutcomes (debouncers : Grid rows cols Debouncer) (samples : List (Sample rows cols))
    (next : Grid rows cols Debouncer) : Grid rows cols Debouncer :=
  samples.foldl (fun next sample => next.put sample.position (sample.outcome debouncers).1) next

end Sample

/-- A sample of the switches of one row. -/
structure RowSample (rows cols : ℕ) where
  row : Fin rows
  raw : Vector Bool cols
  now : ℕ

def RowSample.atCol (sample : RowSample rows cols) (col : Fin cols) : Sample rows cols where
  position := ⟨sample.row, col⟩
  raw := sample.raw.get col
  now := sample.now

def RowSample.switches (sample : RowSample rows cols) : List (Sample rows cols) :=
  (List.finRange cols).map sample.atCol

def Change.stroke (change : Change rows cols) : Stroke (ℕ × ℕ) where
  key := change.position.place
  pressed := change.pressed

/-- A scanner, with the changes that it has passed to its keymap so far. -/
structure Scanning (rows cols : ℕ) where
  scanner : Scanner rows cols
  strokes : List (Stroke (ℕ × ℕ))

namespace Scanning

def start (keymap : Keymap rows cols) : Scanning rows cols where
  scanner := .start keymap
  strokes := []

def sampleRow (scanning : Scanning rows cols) (sample : RowSample rows cols) :
    Scanning rows cols where
  scanner := (scanning.scanner.sampleRow sample.row sample.raw sample.now).1
  strokes := scanning.strokes ++ (Keys.sampleRow sample.row sample.raw sample.now
    scanning.scanner.debouncers).2.map Change.stroke

/-- Samples one switch.  A change goes through the keymap at once. -/
def sampleSwitch (scanning : Scanning rows cols) (sample : Sample rows cols) :
    Scanning rows cols :=
  let strokes := sample.strokes scanning.scanner.debouncers
  { scanner := {
      debouncers := scanning.scanner.debouncers.put sample.position
        (sample.outcome scanning.scanner.debouncers).1
      keymap := scanning.scanner.keymap.after strokes }
    strokes := scanning.strokes ++ strokes }

/-! ## Rows as switches -/

/-- Samples of different switches do not meet each other's debouncers. -/
theorem foldl_sampleSwitch {samples : List (Sample rows cols)}
    (hdistinct : (samples.map Sample.position).Nodup) (scanning : Scanning rows cols) :
    samples.foldl sampleSwitch scanning =
      let debouncers := scanning.scanner.debouncers
      let strokes := samples.flatMap fun sample => sample.strokes debouncers
      { scanner := {
          debouncers := Sample.putOutcomes debouncers samples debouncers
          keymap := scanning.scanner.keymap.after strokes }
        strokes := scanning.strokes ++ strokes } := by
  induction samples generalizing scanning with
  | nil => simp [Sample.putOutcomes, Keymap.after]
  | cons first later ih =>
      rw [List.map_cons, List.nodup_cons] at hdistinct
      have hother : ∀ sample ∈ later, sample.position ≠ first.position := by
        intro sample hmem hposition
        exact hdistinct.1 (hposition ▸ List.mem_map_of_mem hmem)
      have hstrokes : (later.flatMap fun sample =>
          sample.strokes (scanning.sampleSwitch first).scanner.debouncers) =
            later.flatMap fun sample => sample.strokes scanning.scanner.debouncers := by
        apply List.flatMap_congr
        intro sample hmem
        exact Sample.strokes_put_of_ne (hother sample hmem) _ _
      have hdebouncers : ∀ next,
          Sample.putOutcomes (scanning.sampleSwitch first).scanner.debouncers later next =
            Sample.putOutcomes scanning.scanner.debouncers later next := by
        intro next
        apply List.foldl_ext
        intro next sample hmem
        exact congrArg (fun outcome => Grid.put sample.position outcome.1 next)
          (Sample.outcome_put_of_ne (hother sample hmem) _ _)
      rw [List.foldl_cons, ih hdistinct.2]
      simp only [hstrokes, hdebouncers]
      simp only [sampleSwitch, Sample.putOutcomes, List.foldl_cons, List.flatMap_cons,
        List.append_assoc, Keymap.after_append]

theorem foldl_takeChange (changes : List (Change rows cols)) (scanner : Scanner rows cols)
    (findings : Findings) :
    (changes.foldl Scanner.takeChange (scanner, findings)).1 =
      { scanner with keymap := scanner.keymap.after (changes.map Change.stroke) } := by
  induction changes generalizing scanner findings with
  | nil => rfl
  | cons change later ih => exact ih _ _

theorem sampleRow_strokes (sample : RowSample rows cols) (debouncers : Grid rows cols Debouncer) :
    (Keys.sampleRow sample.row sample.raw sample.now debouncers).2.map Change.stroke =
      sample.switches.flatMap fun switch => switch.strokes debouncers := by
  rw [Keys.sampleRow, List.filterMap_eq_flatMap_toList, List.map_flatMap, RowSample.switches,
    List.flatMap_map]
  apply List.flatMap_congr
  intro col _
  rw [Option.toList_map, List.map_map]
  rfl

theorem entry_putOutcomes (sample : RowSample rows cols) (columns : List (Fin cols))
    (debouncers next : Grid rows cols Debouncer) (position : Position rows cols) :
    (Sample.putOutcomes debouncers (columns.map sample.atCol) next).entry position =
      if position.row = sample.row ∧ position.col ∈ columns then
        ((sample.atCol position.col).outcome debouncers).1
      else next.entry position := by
  induction columns generalizing next with
  | nil => simp [Sample.putOutcomes]
  | cons col later ih =>
      have hnext := ih (next.put ⟨sample.row, col⟩ ((sample.atCol col).outcome debouncers).1)
      rw [List.map_cons, Sample.putOutcomes, List.foldl_cons]
      rw [Sample.putOutcomes] at hnext
      rw [show (sample.atCol col).position = ⟨sample.row, col⟩ from rfl, hnext]
      by_cases hposition : position = ⟨sample.row, col⟩
      · simp [hposition]
      · have hcol : position.row = sample.row → position.col ≠ col := by
          rintro hrow rfl
          exact hposition (hrow ▸ rfl)
        rw [Grid.entry_put_of_ne hposition]
        by_cases hrow : position.row = sample.row
        · simp [hrow, hcol hrow]
        · simp [hrow]

theorem sampleRow_debouncers (sample : RowSample rows cols)
    (debouncers : Grid rows cols Debouncer) :
    (Keys.sampleRow sample.row sample.raw sample.now debouncers).1 =
      Sample.putOutcomes debouncers sample.switches debouncers := by
  apply Grid.ext_entry
  intro position
  rw [RowSample.switches, entry_putOutcomes, Keys.sampleRow]
  by_cases hrow : position.row = sample.row
  · rw [if_pos ⟨hrow, List.mem_finRange _⟩]
    simp only [Grid.entry, Fin.getElem_fin, hrow, Vector.getElem_set_self, Vector.getElem_ofFn]
    rfl
  · have hrows : sample.row.val ≠ position.row.val := fun hrows => hrow (Fin.ext hrows.symm)
    rw [if_neg fun hboth => hrow hboth.1]
    simp [Grid.entry, hrows]

/-- Sampling a row is sampling its switches from left to right. -/
theorem sampleRow_eq_foldl (scanning : Scanning rows cols) (sample : RowSample rows cols) :
    scanning.sampleRow sample = sample.switches.foldl sampleSwitch scanning := by
  have hdistinct : (sample.switches.map Sample.position).Nodup := by
    rw [RowSample.switches, List.map_map]
    apply List.Nodup.map _ (List.nodup_finRange cols)
    intro left right hposition
    exact congrArg Position.col hposition
  rw [foldl_sampleSwitch hdistinct, sampleRow, Scanner.sampleRow, foldl_takeChange]
  simp only [sampleRow_strokes, sampleRow_debouncers]

/-! ## What the keymap has been told -/

/-- The keymap was told of every switch whether it is accepted as pressed, by turns. -/
structure Tracks (keymap : Keymap rows cols) (scanning : Scanning rows cols) : Prop where
  keymap_eq : scanning.scanner.keymap = keymap.after scanning.strokes
  pressed_eq : ∀ position, (scanning.scanner.debouncers.entry position).pressed =
    isHeld position.place scanning.strokes
  alternates : ∀ position : Position rows cols, Alternates position.place scanning.strokes

theorem tracks_start (keymap : Keymap rows cols) : Tracks keymap (start keymap) where
  keymap_eq := rfl
  pressed_eq position := by
    show ((Grid.replicate rows cols Debouncer.start).entry position).pressed = false
    rw [Grid.entry_replicate]
    rfl
  alternates position := alternates_nil position.place

section SampleSwitch

variable {keymap : Keymap rows cols} {scanning : Scanning rows cols} {sample : Sample rows cols}

theorem entry_sampleSwitch_self (scanning : Scanning rows cols) (sample : Sample rows cols) :
    (scanning.sampleSwitch sample).scanner.debouncers.entry sample.position =
      (sample.outcome scanning.scanner.debouncers).1 :=
  Grid.entry_put_self ..

theorem entry_sampleSwitch_of_ne {position : Position rows cols}
    (hposition : position ≠ sample.position) (scanning : Scanning rows cols) :
    (scanning.sampleSwitch sample).scanner.debouncers.entry position =
      scanning.scanner.debouncers.entry position :=
  Grid.entry_put_of_ne hposition ..

/-- A sample without a change. -/
theorem Tracks.sampleSwitch_of_kept (h : Tracks keymap scanning)
    (hnone : (sample.outcome scanning.scanner.debouncers).2 = none)
    (hkept : (sample.outcome scanning.scanner.debouncers).1.pressed =
      (scanning.scanner.debouncers.entry sample.position).pressed) :
    Tracks keymap (scanning.sampleSwitch sample) := by
  have hsample : sample.strokes scanning.scanner.debouncers = [] := by
    rw [Sample.strokes, hnone]
    rfl
  have hstrokes : (scanning.sampleSwitch sample).strokes = scanning.strokes := by
    rw [sampleSwitch, hsample]
    exact List.append_nil _
  refine ⟨?_, ?_, ?_⟩
  · rw [hstrokes, sampleSwitch, hsample]
    exact h.keymap_eq
  · intro position
    rw [hstrokes, ← h.pressed_eq position]
    by_cases hposition : position = sample.position
    · rw [hposition, entry_sampleSwitch_self]
      exact hkept
    · rw [entry_sampleSwitch_of_ne hposition]
  · rw [hstrokes]
    exact h.alternates

/-- A sample that changes the switch.  It changes by turns, since the change is to the state that
the switch was not in. -/
theorem Tracks.sampleSwitch_of_changed (h : Tracks keymap scanning) {pressed : Bool}
    (hsome : (sample.outcome scanning.scanner.debouncers).2 = some pressed)
    (hchanged : (scanning.scanner.debouncers.entry sample.position).pressed ≠ pressed)
    (hpressed : (sample.outcome scanning.scanner.debouncers).1.pressed = pressed) :
    Tracks keymap (scanning.sampleSwitch sample) := by
  have hsample : sample.strokes scanning.scanner.debouncers =
      [⟨sample.position.place, pressed⟩] := by
    rw [Sample.strokes, hsome]
    rfl
  have hstrokes : (scanning.sampleSwitch sample).strokes =
      scanning.strokes ++ [⟨sample.position.place, pressed⟩] := by
    rw [sampleSwitch, hsample]
  refine ⟨?_, ?_, ?_⟩
  · rw [hstrokes, Keymap.after_append, ← h.keymap_eq, sampleSwitch, hsample]
  · intro position
    rw [hstrokes]
    by_cases hposition : position = sample.position
    · rw [hposition, entry_sampleSwitch_self,
        isHeld_concat_self _ ⟨sample.position.place, pressed⟩]
      exact hpressed
    · rw [entry_sampleSwitch_of_ne hposition, h.pressed_eq position,
        isHeld_concat_of_ne (Position.place_ne (Ne.symm hposition))]
  · intro position
    rw [hstrokes]
    by_cases hposition : position = sample.position
    · rw [hposition, alternates_concat_self _ ⟨sample.position.place, pressed⟩, ← h.pressed_eq]
      exact ⟨h.alternates sample.position, hchanged⟩
    · rw [alternates_concat_of_ne (Position.place_ne (Ne.symm hposition))]
      exact h.alternates position

theorem Tracks.sampleSwitch (h : Tracks keymap scanning) (sample : Sample rows cols) :
    Tracks keymap (scanning.sampleSwitch sample) := by
  rcases Debouncer.sample_cases sample.raw sample.now
    (scanning.scanner.debouncers.entry sample.position) with
    ⟨hnone, hkept⟩ | ⟨pressed, hsome, hchanged, hpressed⟩
  · exact h.sampleSwitch_of_kept hnone hkept
  · exact h.sampleSwitch_of_changed hsome hchanged hpressed

end SampleSwitch

theorem Tracks.foldl_sampleSwitch {keymap : Keymap rows cols} {scanning : Scanning rows cols}
    (h : Tracks keymap scanning) (samples : List (Sample rows cols)) :
    Tracks keymap (samples.foldl Scanning.sampleSwitch scanning) := by
  induction samples generalizing scanning with
  | nil => exact h
  | cons sample later ih => exact ih (h.sampleSwitch sample)

theorem Tracks.foldl_sampleRow {keymap : Keymap rows cols} {scanning : Scanning rows cols}
    (h : Tracks keymap scanning) (samples : List (RowSample rows cols)) :
    Tracks keymap (samples.foldl Scanning.sampleRow scanning) := by
  induction samples generalizing scanning with
  | nil => exact h
  | cons sample later ih =>
      have hrow : Tracks keymap (scanning.sampleRow sample) := by
        rw [sampleRow_eq_foldl]
        exact h.foldl_sampleSwitch sample.switches
      exact ih hrow

/-- After any samples of rows and then of switches, such as the first ones of a row, and whenever
they were taken: the keymap is as the changes that were reported have left it.  Every layer that is
on, but for the one a tri-layer turns on by itself, is held by a switch that is accepted as pressed
and whose press was resolved to that layer.  The layer of a tri-layer is on exactly if both of its
others are held.  When no switch is accepted as pressed, no layer is on. -/
theorem no_stuck_layer {layers : List (Layer rows cols)} {triLayer : Option TriLayer}
    {keymap : Keymap rows cols} (hmake : Keymap.make layers triLayer = .ok keymap)
    (samples : List (RowSample rows cols)) (begun : List (Sample rows cols))
    {scanning : Scanning rows cols}
    (hscanning : begun.foldl sampleSwitch (samples.foldl sampleRow (start keymap)) = scanning) :
    scanning.scanner.keymap = keymap.after scanning.strokes ∧
    (∀ layer, scanning.scanner.keymap.state.getLsbD layer = true →
      (∀ tri, triLayer = some tri → layer ≠ tri.adjust) →
      ∃ position, (scanning.scanner.debouncers.entry position).pressed = true ∧
        Keymap.HeldAs keymap scanning.strokes position (.momentary layer)) ∧
    (∀ tri, triLayer = some tri → scanning.scanner.keymap.state.getLsbD tri.adjust =
      (scanning.scanner.keymap.momentary.getLsbD tri.lower &&
        scanning.scanner.keymap.momentary.getLsbD tri.raise)) ∧
    ((∀ position, (scanning.scanner.debouncers.entry position).pressed = false) →
      scanning.scanner.keymap.state = 0) := by
  have htracks : Tracks keymap scanning := by
    rw [← hscanning]
    exact ((tracks_start keymap).foldl_sampleRow samples).foldl_sampleSwitch begun
  have hholder : ∀ layer, scanning.scanner.keymap.momentary.getLsbD layer = true →
      ∃ position, (scanning.scanner.debouncers.entry position).pressed = true ∧
        Keymap.HeldAs keymap scanning.strokes position (.momentary layer) := by
    intro layer hon
    rw [htracks.keymap_eq] at hon
    obtain ⟨position, hheld⟩ := Keymap.exists_heldAs_of_momentary hmake htracks.alternates hon
    refine ⟨position, ?_, hheld⟩
    rw [htracks.pressed_eq]
    exact Keymap.exists_heldAs_iff.mp ⟨_, hheld⟩
  have hstate := Keymap.state_after hmake scanning.strokes
  rw [← htracks.keymap_eq] at hstate
  refine ⟨htracks.keymap_eq, ?_, ?_, ?_⟩
  · intro layer hon hadjust
    rw [hstate, Keymap.getLsbD_layersOn hadjust] at hon
    exact hholder layer hon
  · rintro tri rfl
    rw [hstate, Keymap.getLsbD_layersOn_adjust (Keymap.adjust_lt_layerLimit hmake)]
  · intro hup
    have hnone : scanning.scanner.keymap.momentary = 0 := by
      apply BitVec.eq_of_getLsbD_eq
      intro layer _
      cases hon : scanning.scanner.keymap.momentary.getLsbD layer with
      | false => exact (BitVec.getLsbD_zero ..).symm
      | true =>
          obtain ⟨position, hpressed, -⟩ := hholder layer hon
          rw [hup position] at hpressed
          contradiction
    rw [hstate, hnone, Keymap.layersOn_zero]

/-- Both keys of a tri-layer are held, and the first of them is released in the middle of a row. -/
theorem no_stuck_layer_of_released_in_row :
    let tri : TriLayer := { lower := 1, raise := 2, adjust := 3 }
    let through : Layer 1 2 := #v[#v[.transparent, .transparent]]
    let keymap : Keymap 1 2 := {
      layers := [#v[#v[.momentary 1, .momentary 2]], through, through, through]
      triLayer := some tri
      momentary := 0
      state := 0
      held := Grid.replicate 1 2 none }
    let samples : List (RowSample 1 2) := [⟨0, #v[true, true], 0⟩, ⟨0, #v[false, true], 3000⟩,
      ⟨0, #v[true, true], 5000⟩, ⟨0, #v[false, true], 6000⟩]
    let begun : List (Sample 1 2) := [⟨⟨0, 0⟩, false, 11000⟩]
    let scanning := begun.foldl sampleSwitch (samples.foldl sampleRow (start keymap))
    (samples.foldl sampleRow (start keymap)).scanner.keymap.state = 0b1110 ∧
      scanning.scanner.keymap.state = 0b100 ∧
      ∃ position, (scanning.scanner.debouncers.entry position).pressed = true ∧
        Keymap.HeldAs keymap scanning.strokes position (.momentary 2) := by
  intro tri through keymap samples begun scanning
  have hmake : Keymap.make keymap.layers (some tri) = .ok keymap := rfl
  have hstate : scanning.scanner.keymap.state = 0b100 := by decide
  have hon : scanning.scanner.keymap.state.getLsbD 2 = true := by
    rw [hstate]
    decide
  have hadjust : ∀ other, some tri = some other → 2 ≠ other.adjust := by
    rintro other ⟨⟩
    decide
  refine ⟨by decide, hstate, ?_⟩
  exact (no_stuck_layer hmake samples begun rfl).2.1 2 hon hadjust

end Scanning

end SplitPanel.Keys

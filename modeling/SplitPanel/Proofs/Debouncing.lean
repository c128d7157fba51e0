import Mathlib.Data.List.Chain
import Mathlib.Data.List.Induction
import Mathlib.Data.List.Infix
import Mathlib.Data.Nat.Notation
import SplitPanel.Keys.Debounce

/-!
# Debounced switches

A debouncer opens a window at the first reading that differs from the state it has accepted, passes
over everything that is read before the window is over, and lets the next reading decide.  Changes
are therefore at least a window apart, and a level that stays is accepted a window later at the
latest, whatever window was open when it came.  But a level is also accepted if it was gone in the
middle of its window, as long as it is back when the window is over.
-/

namespace SplitPanel.Keys

/-- What was read from a switch, and when. -/
structure Reading where
  raw : Bool
  now : ℕ
deriving DecidableEq, Repr

/-- Every reading was taken no earlier than the ones before it. -/
def InOrder (readings : List Reading) : Prop :=
  readings.Pairwise fun earlier later => earlier.now ≤ later.now

instance (readings : List Reading) : Decidable (InOrder readings) :=
  inferInstanceAs (Decidable (readings.Pairwise _))

theorem InOrder.upTo {readings earlier : List Reading} (horder : InOrder readings)
    (hearlier : earlier <+: readings) : InOrder earlier :=
  horder.sublist hearlier.sublist

theorem InOrder.le_last {readings : List Reading} {last : Reading}
    (horder : InOrder (readings ++ [last])) {reading : Reading} (hmem : reading ∈ readings) :
    reading.now ≤ last.now :=
  (List.pairwise_append.mp horder).2.2 reading hmem last (List.mem_singleton_self last)

/-- A change that was reported. -/
structure Flip where
  pressed : Bool
  time : ℕ
deriving DecidableEq, Repr

namespace Debouncer

/-- What a reading can lead to. -/
inductive Effect (debouncer : Debouncer) (reading : Reading) : Debouncer × Option Bool → Prop where
  | agreed (hresting : debouncer.changedAt = none) (hraw : reading.raw = debouncer.pressed) :
      Effect debouncer reading (debouncer, none)
  | opened (hresting : debouncer.changedAt = none) (hraw : reading.raw ≠ debouncer.pressed) :
      Effect debouncer reading ({ debouncer with changedAt := some reading.now }, none)
  | ignored {since : ℕ} (hwaiting : debouncer.changedAt = some since)
      (hearly : reading.now < since + debounceWindow) : Effect debouncer reading (debouncer, none)
  | dropped {since : ℕ} (hwaiting : debouncer.changedAt = some since)
      (hlate : since + debounceWindow ≤ reading.now) (hraw : reading.raw = debouncer.pressed) :
      Effect debouncer reading ({ debouncer with changedAt := none }, none)
  | flipped {since : ℕ} (hwaiting : debouncer.changedAt = some since)
      (hlate : since + debounceWindow ≤ reading.now) (hraw : reading.raw ≠ debouncer.pressed) :
      Effect debouncer reading ({ pressed := reading.raw, changedAt := none }, some reading.raw)

theorem effect_sample (debouncer : Debouncer) (reading : Reading) :
    Effect debouncer reading (debouncer.sample reading.raw reading.now) := by
  rw [sample]
  split
  · next hresting =>
    split
    · next hraw => exact .agreed hresting hraw
    · next hraw => exact .opened hresting hraw
  · next since hwaiting =>
    split
    · next hearly => exact .ignored hwaiting (by omega)
    · next hlate =>
      have hover : since + debounceWindow ≤ reading.now := by
        rw [debounceWindow] at hlate ⊢
        omega
      split
      · next hraw => exact .dropped hwaiting hover hraw
      · next hraw => exact .flipped hwaiting hover hraw

end Debouncer

/-- A debouncer, with the changes that it has reported so far. -/
structure Debouncing where
  debouncer : Debouncer
  flips : List Flip

namespace Debouncing

open Debouncer (Effect effect_sample)

def start : Debouncing where
  debouncer := .start
  flips := []

def read (debouncing : Debouncing) (reading : Reading) : Debouncing :=
  let (debouncer, flipped) := debouncing.debouncer.sample reading.raw reading.now
  { debouncer
    flips := debouncing.flips ++ flipped.toList.map fun pressed => { pressed, time := reading.now } }

/-- What a new debouncer is led to. -/
def after (readings : List Reading) : Debouncing :=
  readings.foldl read start

theorem exists_effect (debouncing : Debouncing) (reading : Reading) :
    ∃ debouncer flipped, Effect debouncing.debouncer reading (debouncer, flipped) ∧
      debouncing.read reading = {
        debouncer
        flips := debouncing.flips ++
          flipped.toList.map fun pressed => { pressed, time := reading.now } } :=
  ⟨_, _, effect_sample debouncing.debouncer reading, rfl⟩

theorem after_append (readings later : List Reading) :
    after (readings ++ later) = later.foldl read (after readings) :=
  List.foldl_append

theorem after_concat (readings : List Reading) (last : Reading) :
    after (readings ++ [last]) = (after readings).read last :=
  after_append readings [last]

/-! ## Windows -/

/-- A window was opened by a reading that differed from the accepted state, and it was over at none
of the readings behind that one. -/
theorem exists_opening {readings : List Reading} {since : ℕ}
    (hwaiting : (after readings).debouncer.changedAt = some since) :
    ∃ first between, first :: between <:+ readings ∧ first.now = since ∧
      first.raw ≠ (after readings).debouncer.pressed ∧
      ∀ reading ∈ between, reading.now < since + debounceWindow := by
  induction readings using List.reverseRecOn with
  | nil => nomatch hwaiting
  | append_singleton readings last ih =>
      obtain ⟨debouncer, flipped, heffect, hread⟩ := exists_effect (after readings) last
      rw [after_concat, hread] at hwaiting ⊢
      cases heffect with
      | agreed hresting => rw [hresting] at hwaiting; contradiction
      | dropped => nomatch hwaiting
      | flipped => nomatch hwaiting
      | opened _ hraw =>
          injection hwaiting with hwaiting
          exact ⟨last, [], List.suffix_append _ _, hwaiting, hraw, nofun⟩
      | ignored hbefore hearly =>
          obtain ⟨first, between, ⟨before, hreadings⟩, hfirst, hraw, hbetween⟩ := ih hwaiting
          rw [hwaiting] at hbefore
          injection hbefore with hbefore
          refine ⟨first, between ++ [last], ⟨before, ?_⟩, hfirst, hraw, ?_⟩
          · rw [← hreadings, List.append_assoc, List.cons_append]
          · intro reading hmem
            rcases List.mem_append.mp hmem with hmem | hmem
            · exact hbetween reading hmem
            · rw [List.mem_singleton.mp hmem, hbefore]
              exact hearly

/-- From some reading a whole window ago, nothing but the level of `last` was read. -/
def SeenForWindow (readings : List Reading) (last : Reading) : Prop :=
  ∃ first between, first :: between <:+ readings ∧ first.now + debounceWindow ≤ last.now ∧
    ∀ reading ∈ first :: between, reading.raw = last.raw

/-- The first reading a whole window after one of its level is `last`, and in between the other
level was read. -/
def CameBack (readings : List Reading) (last : Reading) : Prop :=
  ∃ first between, first :: between <:+ readings ∧ first.raw = last.raw ∧
    first.now + debounceWindow ≤ last.now ∧
    (∀ reading ∈ between, reading.now < first.now + debounceWindow) ∧
    ∃ reading ∈ between, reading.raw ≠ last.raw

theorem exists_suffix_iff_tails {readings : List Reading}
    {motive : Reading → List Reading → Prop} :
    (∃ first between, first :: between <:+ readings ∧ motive first between) ↔
      ∃ tail ∈ readings.tails, ∃ first ∈ tail.head?, motive first tail.tail := by
  constructor
  · rintro ⟨first, between, hsuffix, hmotive⟩
    exact ⟨first :: between, (List.mem_tails _ _).mpr hsuffix, first, rfl, hmotive⟩
  · rintro ⟨tail, htail, first, hfirst, hmotive⟩
    refine ⟨first, tail.tail, ?_, hmotive⟩
    rw [List.cons_head?_tail hfirst]
    exact (List.mem_tails _ _).mp htail

instance (readings : List Reading) (last : Reading) : Decidable (SeenForWindow readings last) :=
  decidable_of_iff' _ exists_suffix_iff_tails

instance (readings : List Reading) (last : Reading) : Decidable (CameBack readings last) :=
  decidable_of_iff' _ exists_suffix_iff_tails

/-- A change is reported at the first reading that comes a whole window after a reading of the new
level, whenever the switch was read.  If the other level was not read in between, then nothing but
the new one was read for the whole window. -/
theorem flip_seen_for_window {readings : List Reading} {last : Reading} {pressed : Bool}
    (hflip : ((after readings).debouncer.sample last.raw last.now).2 = some pressed) :
    last.raw = pressed ∧
    (∃ first between, first :: between <:+ readings ∧ first.raw = pressed ∧
      first.now + debounceWindow ≤ last.now ∧
      ∀ reading ∈ between, reading.now < first.now + debounceWindow) ∧
    (¬CameBack readings last → SeenForWindow readings last) := by
  have heffect := effect_sample (after readings).debouncer last
  generalize (after readings).debouncer.sample last.raw last.now = result at heffect hflip
  cases heffect with
  | agreed => nomatch hflip
  | opened => nomatch hflip
  | ignored => nomatch hflip
  | dropped => nomatch hflip
  | flipped hwaiting hlate hraw =>
      injection hflip with hpressed
      obtain ⟨first, between, hsuffix, hfirst, hother, hbetween⟩ := exists_opening hwaiting
      rw [← hfirst] at hlate hbetween
      have hlevel : first.raw = last.raw := by
        rw [Bool.eq_not_of_ne hother, Bool.eq_not_of_ne hraw]
      refine ⟨hpressed, ⟨first, between, hsuffix, hlevel.trans hpressed, hlate, hbetween⟩, ?_⟩
      intro hstayed
      refine ⟨first, between, hsuffix, hlate, ?_⟩
      intro reading hmem
      rcases List.mem_cons.mp hmem with rfl | hmem
      · exact hlevel
      · by_contra hgone
        exact hstayed ⟨first, between, hsuffix, hlevel, hlate, hbetween, reading, hmem, hgone⟩

/-- A switch that bounced too shortly to be accepted is pressed for good after that. -/
theorem flip_seen_for_window_after_bounce :
    let readings : List Reading := [⟨true, 0⟩, ⟨false, 1000⟩, ⟨false, 5000⟩, ⟨true, 6000⟩,
      ⟨true, 9000⟩]
    let last : Reading := ⟨true, 11000⟩
    ((after readings).debouncer.sample last.raw last.now).2 = some true ∧
      ¬CameBack readings last ∧ SeenForWindow readings last := by
  intro readings last
  have hflip : ((after readings).debouncer.sample last.raw last.now).2 = some true := by decide
  have hstayed : ¬CameBack readings last := by decide
  exact ⟨hflip, hstayed, (flip_seen_for_window hflip).2.2 hstayed⟩

/-- A switch that was open for all of the window but its two ends is accepted as pressed. -/
theorem flip_unseen_in_window :
    let readings : List Reading := [⟨true, 0⟩, ⟨false, 1000⟩, ⟨false, 2000⟩, ⟨false, 3000⟩,
      ⟨false, 4000⟩]
    let last : Reading := ⟨true, 5000⟩
    InOrder (readings ++ [last]) ∧
      ((after readings).debouncer.sample last.raw last.now).2 = some true ∧
      ¬SeenForWindow readings last := by
  decide

/-- A window was opened at one of the readings, so no later one comes before it. -/
theorem since_le_last {readings : List Reading} {last : Reading}
    (horder : InOrder (readings ++ [last])) {since : ℕ}
    (hwaiting : (after readings).debouncer.changedAt = some since) : since ≤ last.now := by
  obtain ⟨first, between, hsuffix, hfirst, -⟩ := exists_opening hwaiting
  rw [← hfirst]
  exact horder.le_last (hsuffix.subset (List.mem_cons_self ..))

/-! ## Changes -/

theorem pressed_after (readings : List Reading) :
    (after readings).debouncer.pressed =
      ((after readings).flips.map Flip.pressed).getLast?.getD false := by
  induction readings using List.reverseRecOn with
  | nil => rfl
  | append_singleton readings last ih =>
      obtain ⟨debouncer, flipped, heffect, hread⟩ := exists_effect (after readings) last
      rw [after_concat, hread]
      cases heffect with
      | flipped => simp
      | agreed | opened | ignored | dropped => simpa using ih

theorem alternates_after (readings : List Reading) :
    (false :: (after readings).flips.map Flip.pressed).IsChain (· ≠ ·) := by
  induction readings using List.reverseRecOn with
  | nil => exact List.isChain_singleton false
  | append_singleton readings last ih =>
      obtain ⟨debouncer, flipped, heffect, hread⟩ := exists_effect (after readings) last
      rw [after_concat, hread]
      cases heffect with
      | agreed | opened | ignored | dropped => simpa using ih
      | flipped _ _ hraw =>
          rw [pressed_after] at hraw
          rw [Option.toList_some, List.map_append, ← List.cons_append, List.isChain_append,
            List.getLast?_cons]
          refine ⟨ih, List.isChain_singleton _, ?_⟩
          simpa using hraw.symm

theorem exists_reading_of_flip {readings : List Reading} {flip : Flip}
    (hflip : flip ∈ (after readings).flips) : ∃ reading ∈ readings, reading.now = flip.time := by
  induction readings using List.reverseRecOn with
  | nil => nomatch hflip
  | append_singleton readings last ih =>
      have hbefore : flip ∈ (after readings).flips →
          ∃ reading ∈ readings ++ [last], reading.now = flip.time := by
        intro hflip
        obtain ⟨reading, hmem, htime⟩ := ih hflip
        exact ⟨reading, List.mem_append_left _ hmem, htime⟩
      obtain ⟨debouncer, flipped, heffect, hread⟩ := exists_effect (after readings) last
      rw [after_concat, hread] at hflip
      cases heffect with
      | agreed | opened | ignored | dropped => exact hbefore (by simpa using hflip)
      | flipped =>
          rcases List.mem_append.mp hflip with hflip | hflip
          · exact hbefore hflip
          · rw [List.mem_singleton.mp hflip]
            exact ⟨last, by simp, rfl⟩

/-- A window is opened after the change before it. -/
theorem flip_time_le_since {readings : List Reading} (horder : InOrder readings) {since : ℕ}
    (hwaiting : (after readings).debouncer.changedAt = some since) {flip : Flip}
    (hflip : flip ∈ (after readings).flips) : flip.time ≤ since := by
  induction readings using List.reverseRecOn with
  | nil => nomatch hwaiting
  | append_singleton readings last ih =>
      have hbefore := ih (horder.upTo (List.prefix_append _ _))
      obtain ⟨debouncer, flipped, heffect, hread⟩ := exists_effect (after readings) last
      rw [after_concat, hread] at hwaiting hflip
      cases heffect with
      | agreed => exact hbefore hwaiting (by simpa using hflip)
      | ignored => exact hbefore hwaiting (by simpa using hflip)
      | dropped => nomatch hwaiting
      | flipped => nomatch hwaiting
      | opened =>
          injection hwaiting with hwaiting
          obtain ⟨reading, hmem, htime⟩ := exists_reading_of_flip (by simpa using hflip)
          rw [← htime, ← hwaiting]
          exact horder.le_last hmem

/-- There is a whole window between two changes. -/
theorem spaced_after {readings : List Reading} (horder : InOrder readings) :
    (after readings).flips.IsChain fun earlier later =>
      earlier.time + debounceWindow ≤ later.time := by
  induction readings using List.reverseRecOn with
  | nil => exact List.isChain_nil
  | append_singleton readings last ih =>
      have hearlier := horder.upTo (List.prefix_append _ _)
      obtain ⟨debouncer, flipped, heffect, hread⟩ := exists_effect (after readings) last
      rw [after_concat, hread]
      cases heffect with
      | agreed | opened | ignored | dropped => simpa using ih hearlier
      | flipped hwaiting hlate =>
          rw [List.isChain_append]
          refine ⟨ih hearlier, List.isChain_singleton _, ?_⟩
          intro flip hlast next hnext
          injection hnext with hnext
          have hsince := flip_time_le_since hearlier hwaiting (List.mem_of_getLast? hlast)
          rw [← hnext]
          exact (Nat.add_le_add_right hsince _).trans hlate

/-! ## Levels that stay -/

/-- The level is accepted, or a window is waited out that was opened at `latest` or before. -/
def Settling (level : Bool) (latest : ℕ) (debouncer : Debouncer) : Prop :=
  debouncer.pressed = level ∨ ∃ since, debouncer.changedAt = some since ∧ since ≤ latest

section Settling

variable {level : Bool} {latest : ℕ} {debouncing : Debouncing} {reading : Reading}

/-- At the first reading of a level, the level is accepted or some window is open by then. -/
theorem settling_read (hraw : reading.raw = level)
    (hpast : ∀ since, debouncing.debouncer.changedAt = some since → since ≤ reading.now) :
    Settling level reading.now (debouncing.read reading).debouncer := by
  obtain ⟨debouncer, flipped, heffect, hread⟩ := exists_effect debouncing reading
  rw [hread]
  cases heffect with
  | agreed _ hagrees => exact .inl (hagrees.symm.trans hraw)
  | opened => exact .inr ⟨reading.now, rfl, le_rfl⟩
  | ignored hwaiting => exact .inr ⟨_, hwaiting, hpast _ hwaiting⟩
  | dropped _ _ hagrees => exact .inl (hagrees.symm.trans hraw)
  | flipped => exact .inl hraw

theorem Settling.pressed_of_resting {debouncer : Debouncer}
    (hsettling : Settling level latest debouncer) (hresting : debouncer.changedAt = none) :
    debouncer.pressed = level := by
  rcases hsettling with hpressed | ⟨since, hwaiting, -⟩
  · exact hpressed
  · rw [hresting] at hwaiting
    contradiction

theorem Settling.read (hsettling : Settling level latest debouncing.debouncer)
    (hraw : reading.raw = level) :
    Settling level latest (debouncing.read reading).debouncer := by
  obtain ⟨debouncer, flipped, heffect, hread⟩ := exists_effect debouncing reading
  rw [hread]
  cases heffect with
  | agreed => exact hsettling
  | ignored => exact hsettling
  | dropped _ _ hagrees => exact .inl (hagrees.symm.trans hraw)
  | flipped => exact .inl hraw
  | opened hresting hdiffers =>
      exact absurd (hraw.trans (hsettling.pressed_of_resting hresting).symm) hdiffers

theorem Settling.foldl_read (hsettling : Settling level latest debouncing.debouncer)
    {readings : List Reading} (hsteady : ∀ reading ∈ readings, reading.raw = level) :
    Settling level latest (readings.foldl Debouncing.read debouncing).debouncer := by
  induction readings generalizing debouncing with
  | nil => exact hsettling
  | cons reading later ih =>
      rw [List.forall_mem_cons] at hsteady
      exact ih (hsettling.read hsteady.1) hsteady.2

/-- A whole window later the window that was open is over, and the level is accepted. -/
theorem Settling.pressed_read (hsettling : Settling level latest debouncing.debouncer)
    (hraw : reading.raw = level) (hlate : latest + debounceWindow ≤ reading.now) :
    (debouncing.read reading).debouncer.pressed = level := by
  obtain ⟨debouncer, flipped, heffect, hread⟩ := exists_effect debouncing reading
  rw [hread]
  cases heffect with
  | agreed _ hagrees => exact hagrees.symm.trans hraw
  | dropped _ _ hagrees => exact hagrees.symm.trans hraw
  | flipped => exact hraw
  | opened hresting hdiffers =>
      exact absurd (hraw.trans (hsettling.pressed_of_resting hresting).symm) hdiffers
  | ignored hopen hearly =>
      rcases hsettling with hpressed | ⟨since, hwaiting, hsince⟩
      · exact hpressed
      · rw [hopen] at hwaiting
        injection hwaiting with hwaiting
        omega

/-- Readings of the level that is accepted lead to no change. -/
theorem foldl_read_of_pressed (hpressed : debouncing.debouncer.pressed = level)
    {readings : List Reading} (hsteady : ∀ reading ∈ readings, reading.raw = level) :
    (readings.foldl Debouncing.read debouncing).flips = debouncing.flips := by
  induction readings generalizing debouncing with
  | nil => rfl
  | cons reading later ih =>
      rw [List.forall_mem_cons] at hsteady
      have hagrees : reading.raw = debouncing.debouncer.pressed := hsteady.1.trans hpressed.symm
      obtain ⟨debouncer, flipped, heffect, hread⟩ := exists_effect debouncing reading
      rw [List.foldl_cons]
      cases heffect with
      | agreed | ignored | dropped =>
          rw [ih (by rw [hread]; exact hpressed) hsteady.2, hread]
          exact List.append_nil _
      | opened _ hdiffers => exact absurd hagrees hdiffers
      | flipped _ _ hdiffers => exact absurd hagrees hdiffers

end Settling

/-- Whatever a switch does, if it is read in the order of the times: it is pressed and released by
turns, with a whole window between two changes.  A level that stays is accepted at every reading
that comes a whole window after its first one or later, and no change is reported after that
reading.  The time that a window has been open is never less than nothing. -/
theorem flips_apart_and_settled {readings : List Reading} (horder : InOrder readings) :
    (false :: (after readings).flips.map Flip.pressed).IsChain (· ≠ ·) ∧
    ((after readings).flips.IsChain fun earlier later =>
      earlier.time + debounceWindow ≤ later.time) ∧
    (∀ before first between last later level,
      readings = before ++ first :: between ++ last :: later →
      (∀ reading ∈ first :: between ++ last :: later, reading.raw = level) →
      first.now + debounceWindow ≤ last.now →
      (after (before ++ first :: between ++ [last])).debouncer.pressed = level ∧
      (after readings).flips = (after (before ++ first :: between ++ [last])).flips) ∧
    (∀ earlier reading later, readings = earlier ++ reading :: later →
      ∀ since, (after earlier).debouncer.changedAt = some since → since ≤ reading.now) := by
  have hpast : ∀ earlier reading later, readings = earlier ++ reading :: later →
      ∀ since, (after earlier).debouncer.changedAt = some since → since ≤ reading.now := by
    rintro earlier reading later rfl since hwaiting
    rw [List.append_cons] at horder
    exact since_le_last (horder.upTo (List.prefix_append _ _)) hwaiting
  refine ⟨alternates_after readings, spaced_after horder, ?_, hpast⟩
  intro before first between last later level hreadings hsteady hlate
  have hfirst : first.raw = level := hsteady first (by simp)
  have hbetween : ∀ reading ∈ between, reading.raw = level :=
    fun reading hmem => hsteady reading (by simp [hmem])
  have hlast : last.raw = level := hsteady last (by simp)
  have hlater : ∀ reading ∈ later, reading.raw = level :=
    fun reading hmem => hsteady reading (by simp [hmem])
  have hopen : Settling level first.now ((after before).read first).debouncer := by
    apply settling_read hfirst
    apply hpast before first (between ++ last :: later)
    rw [hreadings, List.append_assoc, List.cons_append]
  have hbefore : after (before ++ first :: between) =
      between.foldl read ((after before).read first) := after_append before (first :: between)
  have hpressed : (after (before ++ first :: between ++ [last])).debouncer.pressed = level := by
    rw [after_concat, hbefore]
    exact (hopen.foldl_read hbetween).pressed_read hlast hlate
  refine ⟨hpressed, ?_⟩
  rw [hreadings, List.append_cons, after_append]
  exact foldl_read_of_pressed hpressed hlater

/-- A switch bounces when it opens, and stays open while the window of the first bounce is waited
out. -/
theorem flips_apart_and_settled_within_window :
    let before : List Reading := [⟨true, 0⟩, ⟨true, 5000⟩, ⟨false, 7000⟩, ⟨true, 8000⟩]
    let first : Reading := ⟨false, 11000⟩
    let between : List Reading := [⟨false, 12000⟩]
    let last : Reading := ⟨false, 16000⟩
    let later : List Reading := [⟨false, 20000⟩]
    let readings := before ++ first :: between ++ last :: later
    InOrder readings ∧ (after readings).flips = [⟨true, 5000⟩, ⟨false, 12000⟩] ∧
      (after (before ++ first :: between ++ [last])).debouncer.pressed = false ∧
      (after readings).flips = (after (before ++ first :: between ++ [last])).flips := by
  intro before first between last later readings
  have horder : InOrder readings := by decide
  have hsteady : ∀ reading ∈ first :: between ++ last :: later, reading.raw = false := by decide
  have hlate : first.now + debounceWindow ≤ last.now := by decide
  refine ⟨horder, by decide, ?_⟩
  exact (flips_apart_and_settled horder).2.2.1 before first between last later false rfl hsteady
    hlate

end Debouncing

end SplitPanel.Keys

import Mathlib.Data.Int.ModEq
import Mathlib.Data.List.DropRight
import SplitPanel.Host.TagBoard

/-!
# Tags as sums of steps

Whatever events a tag board follows, the tag of a screen is the one that the screen was last put on,
with all steps since then added up around the circle of tags.  A step down is carried out as a step
up that goes almost all the way around, and a tag that does not exist is not put on any screen.
-/

namespace SplitPanel

namespace TagEvent

variable (screen : Side) (count : ℕ)

/-- The tag that an event puts a screen on, if it is one of so many tags. -/
def choice? : TagEvent → Option UInt8
  | .setTag other tag => if other = screen ∧ tag.toNat < count then some tag else none
  | .increment _ | .decrement _ => none

/-- The tag that a screen was last put on; tag 0 if there is none. -/
def lastChoice (events : List TagEvent) : UInt8 :=
  (events.filterMap (choice? screen count)).getLast?.getD 0

/-- The events since then. -/
def sinceChoice (events : List TagEvent) : List TagEvent :=
  events.rtakeWhile fun event => (event.choice? screen count).isNone

/-- The steps up for a screen, less the steps down. -/
def netSteps (events : List TagEvent) : ℤ :=
  events.count (.increment screen) - events.count (.decrement screen)

variable {screen count} {event : TagEvent}

theorem lastChoice_concat (events : List TagEvent) (event : TagEvent) :
    lastChoice screen count (events ++ [event]) =
      (event.choice? screen count).getD (lastChoice screen count events) := by
  rw [lastChoice, List.filterMap_append]
  cases hchoice : event.choice? screen count <;> simp [hchoice, lastChoice]

theorem sinceChoice_concat_of_none (hchoice : event.choice? screen count = none)
    (events : List TagEvent) :
    sinceChoice screen count (events ++ [event]) = sinceChoice screen count events ++ [event] := by
  apply List.rtakeWhile_concat_pos
  rw [hchoice]
  rfl

theorem sinceChoice_concat_of_some {tag : UInt8} (hchoice : event.choice? screen count = some tag)
    (events : List TagEvent) : sinceChoice screen count (events ++ [event]) = [] := by
  apply List.rtakeWhile_concat_neg
  rw [hchoice]
  exact Bool.false_ne_true

theorem netSteps_concat (events : List TagEvent) (event : TagEvent) :
    netSteps screen (events ++ [event]) = netSteps screen events + netSteps screen [event] := by
  simp only [netSteps, List.count_append, Nat.cast_add]
  exact add_sub_add_comm ..

@[simp]
theorem netSteps_nil : netSteps screen [] = 0 := rfl

@[simp]
theorem netSteps_setTag (other : Side) (tag : UInt8) : netSteps screen [.setTag other tag] = 0 :=
  rfl

@[simp]
theorem netSteps_increment : netSteps screen [.increment screen] = 1 := by
  simp [netSteps]

@[simp]
theorem netSteps_decrement : netSteps screen [.decrement screen] = -1 := by
  simp [netSteps]

/-- Only step keys of the screen itself count. -/
theorem netSteps_of_ne (hscreen : screen ≠ event.screen) : netSteps screen [event] = 0 := by
  cases event <;> simp_all [netSteps, TagEvent.screen, eq_comm]

end TagEvent

namespace Host.TagBoard

open TagEvent

variable {tags : TagBoard} {event : TagEvent}

/-! ## One event -/

theorem get_set (tags : TagBoard) (screen other : Side) (tag : UInt8) :
    (tags.set screen tag).get other = if other = screen then tag else tags.get other := by
  cases screen <;> cases other <;> rfl

theorem count_follow (tags : TagBoard) (event : TagEvent) :
    (tags.follow event).1.count = tags.count := by
  rw [follow]
  split
  · rfl
  · split
    · rfl
    · cases event.screen <;> rfl

/-- The screen of an event gets the tag that the event asks for, if there is one. -/
theorem get_follow (tags : TagBoard) (event : TagEvent) (screen : Side) :
    (tags.follow event).1.get screen =
      if screen = event.screen then (tags.target? event).getD (tags.get screen)
      else tags.get screen := by
  rw [follow]
  split
  · next hnone => simp [hnone]
  · next tag htarget =>
    by_cases hsame : tag = tags.get event.screen
    · rw [if_pos hsame, htarget, Option.getD_some]
      split
      · next hscreen => rw [hsame, hscreen]
      · rfl
    · rw [if_neg hsame, htarget, get_set, Option.getD_some]

theorem get_follow_self (tags : TagBoard) (event : TagEvent) :
    (tags.follow event).1.get event.screen =
      (tags.target? event).getD (tags.get event.screen) := by
  rw [get_follow, if_pos rfl]

theorem snd_follow_eq_some_iff {screen : Side} :
    (tags.follow event).2 = some screen ↔ (tags.follow event).1.get screen ≠ tags.get screen := by
  rw [get_follow, follow]
  cases htarget : tags.target? event with
  | none => simp
  | some tag =>
      by_cases hscreen : screen = event.screen
      · subst hscreen
        by_cases hsame : tag = tags.get event.screen <;> simp [hsame]
      · by_cases hsame : tag = tags.get event.screen <;> simp [hsame, hscreen, eq_comm]

/-! ## Steps around the circle -/

/-- Both screens are on tags that exist. -/
def InRange (tags : TagBoard) : Prop :=
  ∀ screen, tags.get screen < tags.count

theorem inRange_make (count : UInt8) : (make count).InRange := by
  intro screen
  have hpos : 0 < (make count).count := by
    rw [make]
    split
    · decide
    · next hzero => exact UInt8.pos_iff_ne_zero.mpr hzero
  cases screen <;> exact hpos

theorem toNat_count_make (count : UInt8) : (make count).count.toNat = max count.toNat 1 := by
  rw [make]
  split
  · next hzero => simp [hzero]
  · next hzero =>
    have hpos : 1 ≤ count.toNat := UInt8.pos_iff_ne_zero.mpr hzero
    exact (max_eq_left hpos).symm

/-- What is left of a sum fits a byte again. -/
theorem toNat_step (hrange : tags.InRange) (tag : UInt8) (steps : UInt16) :
    (tags.step tag steps).toNat = (tag.toUInt16 + steps).toNat % tags.count.toNat := by
  have hpos : 0 < tags.count.toNat := Nat.zero_lt_of_lt (hrange .master)
  have hlt : (tag.toUInt16 + steps).toNat % tags.count.toNat < 2 ^ 8 :=
    (Nat.mod_lt _ hpos).trans tags.count.toNat_lt
  rw [step, UInt16.toNat_toUInt8, UInt16.toNat_mod, UInt8.toNat_toUInt16, Nat.mod_eq_of_lt hlt]

theorem step_lt (hrange : tags.InRange) (tag : UInt8) (steps : UInt16) :
    tags.step tag steps < tags.count := by
  rw [UInt8.lt_iff_toNat_lt, toNat_step hrange]
  exact Nat.mod_lt _ (Nat.zero_lt_of_lt (hrange .master))

/-- Sixteen bits are enough for the sum that a step makes. -/
theorem toNat_toUInt16_add (tag : UInt8) {steps : UInt16}
    (hsteps : steps.toNat ≤ tags.count.toNat) :
    (tag.toUInt16 + steps).toNat = tag.toNat + steps.toNat := by
  have hsum : tag.toNat + steps.toNat < 2 ^ 16 := by
    have htag := tag.toNat_lt
    have hcount := tags.count.toNat_lt
    omega
  rw [UInt16.toNat_add, UInt8.toNat_toUInt16, Nat.mod_eq_of_lt hsum]

theorem step_modEq (hrange : tags.InRange) (tag : UInt8) {steps : UInt16}
    (hsteps : steps.toNat ≤ tags.count.toNat) :
    (tags.step tag steps).toNat ≡ tag.toNat + steps.toNat [ZMOD tags.count.toNat] := by
  rw [toNat_step hrange, toNat_toUInt16_add tag hsteps]
  push_cast
  exact Int.mod_modEq _ _

/-- A screen is put on tags that exist only, and stepped only to such. -/
theorem target?_lt (hrange : tags.InRange) {tag : UInt8} (htarget : tags.target? event = some tag) :
    tag < tags.count := by
  cases event with
  | setTag screen chosen =>
      rw [target?] at htarget
      split at htarget
      · next hlt => exact Option.some.inj htarget ▸ hlt
      · contradiction
  | increment screen => exact Option.some.inj htarget ▸ step_lt hrange ..
  | decrement screen => exact Option.some.inj htarget ▸ step_lt hrange ..

theorem InRange.follow (hrange : tags.InRange) (event : TagEvent) :
    (tags.follow event).1.InRange := by
  intro screen
  rw [count_follow, get_follow]
  split
  · cases htarget : tags.target? event with
    | none => exact hrange screen
    | some tag => exact target?_lt hrange htarget
  · exact hrange screen

/-- A tag that an event puts a screen on replaces the one that it was on. -/
theorem get_follow_of_choice {screen : Side} {tag : UInt8}
    (hchoice : event.choice? screen tags.count.toNat = some tag) :
    (tags.follow event).1.get screen = tag := by
  cases event with
  | setTag other chosen =>
      rw [choice?] at hchoice
      split at hchoice
      · next hchosen =>
        obtain ⟨rfl, hlt⟩ := hchosen
        obtain rfl := Option.some.inj hchoice
        have hget := get_follow_self tags (.setTag other chosen)
        rw [target?, if_pos (UInt8.lt_iff_toNat_lt.mpr hlt), Option.getD_some] at hget
        exact hget
      · contradiction
  | increment | decrement => contradiction

/-- Any other event moves the screen by its step, if it has one for it. -/
theorem get_follow_modEq (hrange : tags.InRange) {screen : Side}
    (hchoice : event.choice? screen tags.count.toNat = none) :
    ((tags.follow event).1.get screen).toNat ≡
      (tags.get screen).toNat + netSteps screen [event] [ZMOD tags.count.toNat] := by
  by_cases hscreen : screen = event.screen
  · have hget := get_follow_self tags event
    rw [← hscreen] at hget
    rw [hget]
    -- Without a tag there would be no way around the circle, and nothing to take off.
    have hpos : 1 ≤ tags.count.toNat := Nat.zero_lt_of_lt (hrange screen)
    cases event with
    | setTag other tag =>
        have hlarge : ¬ tag < tags.count := fun hlt => by
          rw [choice?, if_pos ⟨hscreen.symm, UInt8.lt_iff_toNat_lt.mp hlt⟩] at hchoice
          contradiction
        rw [target?, if_neg hlarge, netSteps_setTag, add_zero]
        rfl
    | increment other =>
        obtain rfl : screen = other := hscreen
        rw [target?, Option.getD_some, netSteps_increment]
        exact step_modEq hrange (tags.get screen) hpos
    | decrement other =>
        obtain rfl : screen = other := hscreen
        have hsteps : (tags.count.toUInt16 - 1).toNat = tags.count.toNat - 1 := by
          rw [UInt16.toNat_sub_of_le _ _ hpos, UInt8.toNat_toUInt16]
          rfl
        rw [target?, Option.getD_some, netSteps_decrement]
        calc ((tags.step (tags.get screen) (tags.count.toUInt16 - 1)).toNat : ℤ)
            ≡ (tags.get screen).toNat + (tags.count.toUInt16 - 1).toNat
                [ZMOD tags.count.toNat] :=
              step_modEq hrange _ (hsteps.trans_le (Nat.sub_le ..))
          _ = (tags.get screen).toNat + -1 + tags.count.toNat := by omega
          _ ≡ (tags.get screen).toNat + -1 [ZMOD tags.count.toNat] :=
              Int.add_modulus_modEq_iff.mpr rfl
  · rw [get_follow, if_neg hscreen, netSteps_of_ne hscreen, add_zero]

/-! ## Runs -/

/-- The board after events, from the first one on. -/
def followAll (events : List TagEvent) (tags : TagBoard) : TagBoard :=
  events.foldl (fun tags event => (tags.follow event).1) tags

theorem followAll_concat (events : List TagEvent) (event : TagEvent) (tags : TagBoard) :
    tags.followAll (events ++ [event]) = ((tags.followAll events).follow event).1 :=
  List.foldl_concat ..

theorem count_followAll (events : List TagEvent) (tags : TagBoard) :
    (tags.followAll events).count = tags.count := by
  induction events using List.reverseRecOn with
  | nil => rfl
  | append_singleton events event ih => rw [followAll_concat, count_follow, ih]

theorem InRange.followAll (hrange : tags.InRange) (events : List TagEvent) :
    (tags.followAll events).InRange := by
  induction events using List.reverseRecOn with
  | nil => exact hrange
  | append_singleton events event ih =>
      rw [followAll_concat]
      exact ih.follow event

/-- The steps that came after the last choice are added to it. -/
theorem get_followAll_modEq (count : UInt8) (events : List TagEvent) (screen : Side) :
    (((make count).followAll events).get screen).toNat ≡
      (lastChoice screen (make count).count.toNat events).toNat +
        netSteps screen (sinceChoice screen (make count).count.toNat events)
      [ZMOD (make count).count.toNat] := by
  induction events using List.reverseRecOn with
  | nil => cases screen <;> rfl
  | append_singleton events event ih =>
      have hrange := (inRange_make count).followAll events
      have hcount := count_followAll events (make count)
      rw [followAll_concat, lastChoice_concat]
      -- A choice makes all steps before it void; any other event adds its own step to the sum.
      cases hchoice : event.choice? screen (make count).count.toNat with
      | some tag =>
          rw [sinceChoice_concat_of_some hchoice, netSteps_nil, add_zero, Option.getD_some,
            get_follow_of_choice (hcount ▸ hchoice)]
      | none =>
          have hstep := get_follow_modEq hrange (hcount ▸ hchoice)
          rw [hcount] at hstep
          rw [sinceChoice_concat_of_none hchoice, netSteps_concat, Option.getD_none, ← add_assoc]
          exact hstep.trans (ih.add_right _)

/-- After any events, a screen is on the tag it was last put on, or on tag 0 if there is none, with
all steps since then added modulo the number of tags, and so always on a tag that exists.  Tags that
do not exist are ignored.  An event names the screen exactly if it changes the tag of that screen,
and it leaves the other screen alone. -/
theorem tag_sums_steps_since_choice (count : UInt8) (events : List TagEvent) :
    let total := max count.toNat 1
    let tags := (make count).followAll events
    (∀ screen, ((tags.get screen).toNat : ℤ) =
        ((lastChoice screen total events).toNat +
          netSteps screen (sinceChoice screen total events)) % total ∧
      (tags.get screen).toNat < total) ∧
    (∀ screen tag, total ≤ tag.toNat → tags.follow (.setTag screen tag) = (tags, none)) ∧
    ∀ event,
      (∀ screen, (tags.follow event).2 = some screen ↔
        (tags.follow event).1.get screen ≠ tags.get screen) ∧
      ∀ screen, screen ≠ event.screen → (tags.follow event).1.get screen = tags.get screen := by
  intro total tags
  have htotal : (make count).count.toNat = total := toNat_count_make count
  have hcount : tags.count.toNat = total := by rw [count_followAll, htotal]
  have hrange : tags.InRange := (inRange_make count).followAll events
  refine ⟨?_, ?_, ?_⟩
  · intro screen
    have hlt : (tags.get screen).toNat < total := hcount ▸ hrange screen
    have hsum := get_followAll_modEq count events screen
    rw [htotal] at hsum
    refine ⟨?_, hlt⟩
    calc ((tags.get screen).toNat : ℤ)
        = (tags.get screen).toNat % total :=
          (Int.emod_eq_of_lt (Int.natCast_nonneg _) (Int.ofNat_lt.mpr hlt)).symm
      _ = _ := hsum
  · intro screen tag hlarge
    have hignored : ¬ tag < tags.count := fun hlt => by
      rw [UInt8.lt_iff_toNat_lt, hcount] at hlt
      exact Nat.not_lt.mpr hlarge hlt
    rw [follow, target?, if_neg hignored]
  · intro event
    refine ⟨fun screen => snd_follow_eq_some_iff, ?_⟩
    intro screen hscreen
    rw [get_follow, if_neg hscreen]

/-- Of 255 tags, the one below the first is the last one. -/
example : ((make 255).followAll [.setTag .slave 255, .decrement .slave]).slave = 254 := by decide

end Host.TagBoard

end SplitPanel

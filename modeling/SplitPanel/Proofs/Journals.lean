import Mathlib.Data.List.Induction
import SplitPanel.Proofs.Exchanges

/-!
# Journals

What a session may do next depends on what it did last, and on the tags that the events make which
it got to know so far.  In a journal that keeps to this, the master screen is drawn right after the
set-up and right after the events that change a tag, and at no other time.  Whenever an event is
waited for, the master screen was last drawn without a fault, and for the tags there are by then.
-/

namespace SplitPanel.Host

theorem TagBoard.follow_fst_of_none {event : TagEvent} {tags : TagBoard}
    (hnone : (tags.follow event).2 = none) : (tags.follow event).1 = tags := by
  rw [follow] at hnone ⊢
  split at hnone
  · rfl
  · split at hnone
    · next hsame => exact congrArg Prod.fst (if_pos hsame)
    · contradiction

namespace Activity

/-- The event that a poll came back with. -/
def event? : Activity → Option TagEvent
  | .polled (.ok event) => event
  | _ => none

/-- The lines that the master screen was drawn with, and what came of that. -/
def masterDrawing? : Activity → Option (List String × Except HostFault Unit)
  | .drew .master lines result => some (lines, result)
  | _ => none

end Activity

/-- The requests for an activity, on a screen with so many rows. -/
def Activity.requests (rows : ℕ) : Activity → List Request
  | .setUp _ => [.setUp .master]
  | .drew screen lines _ => drawRequests screen (lines.take rows)
  | .polled _ => []
  | .cleared screen _ => [.clear screen]

/-- The last drawing of the master screen in a journal, and what came of it. -/
def lastMasterDrawing? (journal : List Activity) : Option (List String × Except HostFault Unit) :=
  (journal.filterMap Activity.masterDrawing?).getLast?

/-- How far a session has come. -/
inductive Stage where
  | fresh
  /-- The master screen is still to be drawn for the tags. -/
  | outdated
  | current
  | clearing
  | cleared
  | failed (fault : HostFault)

/-- How far something brought a session, which had these tags before it. -/
def Stage.after (tags : TagBoard) : Activity → Stage
  | .setUp (.ok _) => .outdated
  | .drew _ _ (.ok _) => .current
  | .polled (.ok none) => .current
  | .polled (.ok (some event)) => if (tags.follow event).2.isSome then .outdated else .current
  | .cleared .master (.ok _) => .clearing
  | .cleared .slave (.ok _) => .cleared
  | .setUp (.error fault) | .drew _ _ (.error fault) | .polled (.error fault)
  | .cleared _ (.error fault) => .failed fault

theorem Stage.after_cases (tags : TagBoard) (activity : Activity) :
    after tags activity = .outdated ∨ after tags activity = .current ∨
      (after tags activity = .clearing ∧ activity = .cleared .master (.ok ())) ∨
      (after tags activity = .cleared ∧ activity = .cleared .slave (.ok ())) ∨
      ∃ fault, after tags activity = .failed fault := by
  unfold after
  split
  case h_4 => split <;> simp
  all_goals simp

/-- What a session with these tags does next at a stage. -/
inductive Due (options : Options) (tags : TagBoard) : Stage → Activity → Prop where
  | setUp (size : Except HostFault (UInt8 × UInt8)) : Due options tags .fresh (.setUp size)
  | tags (result : Except HostFault Unit) :
      Due options tags .outdated (.drew .master (options.masterScreen tags) result)
  | stats (lines : List String) (result : Except HostFault Unit) :
      Due options tags .current (.drew .slave lines result)
  | event (event : Except HostFault (Option TagEvent)) :
      Due options tags .current (.polled event)
  | clearMaster (result : Except HostFault Unit) :
      Due options tags .current (.cleared .master result)
  | clearSlave (result : Except HostFault Unit) :
      Due options tags .clearing (.cleared .slave result)

/-- The master screen is drawn when that is still to be done, and then at once. -/
theorem Due.draws_master_iff {options : Options} {tags : TagBoard} {stage : Stage}
    {activity : Activity} (hdue : Due options tags stage activity) :
    (∃ lines result, activity = .drew .master lines result) ↔ stage = .outdated := by
  cases hdue <;> simp

/-- An event is waited for when the tags are on the master screen. -/
theorem Due.stage_of_polled {options : Options} {tags : TagBoard} {stage : Stage}
    {event : Except HostFault (Option TagEvent)}
    (hdue : Due options tags stage (.polled event)) : stage = .current := by
  cases hdue
  rfl

theorem Due.stage_of_clearedSlave {options : Options} {tags : TagBoard} {stage : Stage}
    {result : Except HostFault Unit} (hdue : Due options tags stage (.cleared .slave result)) :
    stage = .clearing := by
  cases hdue
  rfl

theorem Due.lines_eq {options : Options} {tags : TagBoard} {stage : Stage} {lines : List String}
    {result : Except HostFault Unit} (hdue : Due options tags stage (.drew .master lines result)) :
    lines = options.masterScreen tags := by
  cases hdue
  rfl

namespace Options

variable (options : Options)

/-- The tags that the events in a journal make. -/
def tagsAfter (journal : List Activity) : TagBoard :=
  (journal.filterMap Activity.event?).foldl (fun tags event => (tags.follow event).1)
    (TagBoard.make options.tags)

def stageAfter (journal : List Activity) : Stage :=
  match journal.getLast? with
  | none => .fresh
  | some activity => .after (options.tagsAfter journal.dropLast) activity

/-- Everything in the journal was due when it was done. -/
def Orderly (journal : List Activity) : Prop :=
  ∀ earlier activity later, journal = earlier ++ activity :: later →
    Due options (options.tagsAfter earlier) (options.stageAfter earlier) activity

/-- The master screen was last drawn for the tags there are, without a fault. -/
def ShowsTags (journal : List Activity) : Prop :=
  lastMasterDrawing? journal = some (options.masterScreen (options.tagsAfter journal), .ok ())

section

variable (journal : List Activity) (activity : Activity)

theorem tagsAfter_concat :
    options.tagsAfter (journal ++ [activity]) =
      activity.event?.elim (options.tagsAfter journal)
        fun event => ((options.tagsAfter journal).follow event).1 := by
  rw [tagsAfter, List.filterMap_append, List.foldl_append]
  cases hevent : activity.event? <;> simp [hevent, tagsAfter]

theorem stageAfter_concat :
    options.stageAfter (journal ++ [activity]) = .after (options.tagsAfter journal) activity := by
  rw [stageAfter, List.getLast?_concat, List.dropLast_concat]

theorem lastMasterDrawing?_concat :
    lastMasterDrawing? (journal ++ [activity]) =
      activity.masterDrawing?.or (lastMasterDrawing? journal) := by
  rw [lastMasterDrawing?, List.filterMap_append]
  cases hdrawing : activity.masterDrawing? <;> simp [hdrawing, lastMasterDrawing?]

end

variable {options} {journal earlier later : List Activity} {activity : Activity}

theorem orderly_nil : options.Orderly [] := by
  intro earlier activity later hsplit
  simp at hsplit

theorem Orderly.concat (horderly : options.Orderly journal)
    (hdue : Due options (options.tagsAfter journal) (options.stageAfter journal) activity) :
    options.Orderly (journal ++ [activity]) := by
  intro earlier other later hsplit
  rcases split_of_concat hsplit with ⟨-, rfl, rfl⟩ | ⟨rest, -, hbefore⟩
  · exact hdue
  · exact horderly earlier other rest hbefore

theorem Orderly.of_append (horderly : options.Orderly journal)
    (hsplit : journal = earlier ++ later) : options.Orderly earlier := by
  rintro first activity rest rfl
  apply horderly first activity (rest ++ later)
  rw [hsplit, List.append_assoc, List.cons_append]

theorem ShowsTags.concat (hshows : options.ShowsTags journal)
    (hdrawing : activity.masterDrawing? = none)
    (htags : options.tagsAfter (journal ++ [activity]) = options.tagsAfter journal) :
    options.ShowsTags (journal ++ [activity]) := by
  rw [ShowsTags, lastMasterDrawing?_concat, hdrawing, htags]
  exact hshows

theorem Orderly.showsTags (horderly : options.Orderly journal)
    (hcurrent : options.stageAfter journal = .current) : options.ShowsTags journal := by
  induction journal using List.reverseRecOn with
  | nil => contradiction
  | append_singleton journal activity ih =>
      have hdue := horderly journal activity [] rfl
      have hshows := ih (horderly.of_append rfl)
      have htags := options.tagsAfter_concat journal activity
      rw [stageAfter_concat] at hcurrent
      generalize options.stageAfter journal = stage at hdue hshows
      cases hdue with
      | setUp size => cases size <;> contradiction
      | tags result =>
          cases result with
          | error fault => contradiction
          | ok => rw [ShowsTags, lastMasterDrawing?_concat, htags]; rfl
      | stats lines result => exact (hshows rfl).concat rfl htags
      | event event =>
          apply (hshows rfl).concat rfl
          rw [htags]
          rcases event with fault | _ | event
          · rfl
          · rfl
          · apply TagBoard.follow_fst_of_none
            by_contra hchanged
            rw [Stage.after, if_pos (Option.isSome_iff_ne_none.mpr hchanged)] at hcurrent
            contradiction
      | clearMaster result => cases result <;> contradiction
      | clearSlave result => cases result <;> contradiction

theorem eq_nil_of_fresh (hfresh : options.stageAfter journal = .fresh) : journal = [] := by
  cases journal using List.reverseRecOn with
  | nil => rfl
  | append_singleton journal activity =>
      rw [stageAfter_concat] at hfresh
      simpa [hfresh] using Stage.after_cases (options.tagsAfter journal) activity

theorem exists_concat_of_clearing (hclearing : options.stageAfter journal = .clearing) :
    ∃ earlier, journal = earlier ++ [.cleared .master (.ok ())] := by
  cases journal using List.reverseRecOn with
  | nil => contradiction
  | append_singleton journal activity =>
      rw [stageAfter_concat] at hclearing
      have hactivity : activity = .cleared .master (.ok ()) := by
        simpa [hclearing] using Stage.after_cases (options.tagsAfter journal) activity
      exact ⟨journal, by rw [hactivity]⟩

theorem exists_concat_of_cleared (hcleared : options.stageAfter journal = .cleared) :
    ∃ earlier, journal = earlier ++ [.cleared .slave (.ok ())] := by
  cases journal using List.reverseRecOn with
  | nil => contradiction
  | append_singleton journal activity =>
      rw [stageAfter_concat] at hcleared
      have hactivity : activity = .cleared .slave (.ok ()) := by
        simpa [hcleared] using Stage.after_cases (options.tagsAfter journal) activity
      exact ⟨journal, by rw [hactivity]⟩

/-- The master screen is still to be drawn after the set-up, after an event that changed a tag, and
at no other time. -/
theorem Orderly.outdated_iff (horderly : options.Orderly journal) :
    options.stageAfter journal = .outdated ↔
      (∃ size, journal = [.setUp (.ok size)]) ∨
      ∃ earlier event, journal = earlier ++ [.polled (.ok (some event))] ∧
        ((options.tagsAfter earlier).follow event).2.isSome = true := by
  cases journal using List.reverseRecOn with
  | nil => simp [stageAfter]
  | append_singleton journal activity =>
      have hdue := horderly journal activity [] rfl
      have hsingle : ∀ other,
          journal ++ [activity] = [other] ↔ journal = [] ∧ activity = other := by
        intro other
        rw [← List.nil_append [other], List.append_singleton_inj]
      simp only [stageAfter_concat, hsingle, List.append_singleton_inj]
      generalize hstage : options.stageAfter journal = stage at hdue
      cases hdue with
      | setUp size => cases size <;> simp [Stage.after, eq_nil_of_fresh hstage]
      | tags result | stats _ result | clearMaster result | clearSlave result =>
          cases result <;> simp [Stage.after]
      | event event =>
          rcases event with fault | _ | event <;> simp [Stage.after, Option.isSome_iff_ne_none]

/-- A session with cleared screens did nothing after it cleared them. -/
theorem Orderly.eq_append_of_cleared (horderly : options.Orderly journal)
    (hcleared : options.stageAfter journal = .cleared) :
    ∃ earlier, journal = earlier ++ [.cleared .master (.ok ()), .cleared .slave (.ok ())] := by
  obtain ⟨before, hbefore⟩ := exists_concat_of_cleared hcleared
  have hclearing := (horderly before _ [] hbefore).stage_of_clearedSlave
  obtain ⟨earlier, hearlier⟩ := exists_concat_of_clearing hclearing
  refine ⟨earlier, ?_⟩
  rw [hbefore, hearlier, List.append_assoc]
  rfl

end Options

end SplitPanel.Host

import Mathlib.Data.List.Basic
import Mathlib.Data.List.Induction
import Mathlib.Order.Lattice
import SplitPanel.Screen.Panel

/-!
# Keeping the panel up to date

A frame is sent to the panel only when that seems necessary, and sending it may fail.  What the
panel was last sent with success is nevertheless at every moment what it would have been sent if
every frame had been tried: a grid that is not dirty holds what the panel shows, and a grid stays
dirty for as long as it could not be sent.
-/

namespace SplitPanel.Screen

/-- A frame for the panel, and whether the panel takes what is sent to it by then. -/
structure PanelTurn (capacity : ℕ) where
  frame : CharGrid capacity
  succeeds : Bool

namespace CharGrid

variable {capacity : ℕ}

/-! ## Taking over a frame -/

theorem make_eq_ok {geometry : Geometry} {grid : CharGrid capacity}
    (hmake : make geometry = .ok grid) : grid = blank geometry := by
  unfold make at hmake
  cases hfits : geometry.check capacity with
  | error fault =>
      rw [hfits] at hmake
      contradiction
  | ok =>
      rw [hfits] at hmake
      exact (Except.ok.inj hmake).symm

section

variable {grid source : CharGrid capacity}

@[simp]
theorem geometry_adopt : (grid.adopt source).geometry = grid.geometry := by
  rw [adopt]
  split <;> rfl

theorem content_adopt (hgeometry : source.geometry = grid.geometry) :
    (grid.adopt source).content = source.content := by
  rw [adopt]
  split
  · next hsame => exact hsame
  · rw [content, content, hgeometry]
    apply List.ext_getElem
    · simp
    · intro index hleft hright
      have hindex : index < grid.geometry.cells := by
        rw [List.length_take] at hright
        exact lt_of_lt_of_le hright (Nat.min_le_left ..)
      simp [hindex, Vector.get]

theorem dirty_adopt :
    (grid.adopt source).dirty = true ↔ grid.dirty = true ∨ grid.content ≠ source.content := by
  rw [adopt]
  split
  · next hsame => simp [hsame]
  · next hother => simp [hother]

/-- A frame is drawn by its rows alone. -/
theorem panelTexts_congr (hgeometry : grid.geometry = source.geometry)
    (hcontent : grid.content = source.content) : grid.panelTexts = source.panelTexts := by
  rw [panelTexts, panelTexts, lines, lines, hgeometry, hcontent]

end

/-- What one refresh can come to. -/
inductive Refreshed (shown : CharGrid capacity) (turn : PanelTurn capacity) :
    CharGrid capacity × Option (CharGrid capacity) → Prop where
  | skipped (hclean : shown.dirty = false) (hsame : shown.content = turn.frame.content) :
      Refreshed shown turn (shown, none)
  | sent {next sent : CharGrid capacity}
      (hdue : shown.dirty = true ∨ shown.content ≠ turn.frame.content)
      (hsent : sent.geometry = shown.geometry ∧ sent.content = turn.frame.content)
      (hnext : next.geometry = shown.geometry ∧ next.content = turn.frame.content)
      (hdirty : next.dirty = !turn.succeeds) :
      Refreshed shown turn (next, some sent)

theorem refreshed_refresh (shown : CharGrid capacity) (turn : PanelTurn capacity)
    (hgeometry : turn.frame.geometry = shown.geometry) :
    Refreshed shown turn (shown.refresh turn.frame turn.succeeds) := by
  have hcontent := content_adopt hgeometry
  by_cases hdirty : (shown.adopt turn.frame).dirty = true
  · have hsent : shown.refresh turn.frame turn.succeeds =
        (if turn.succeeds then (shown.adopt turn.frame).cleaned else shown.adopt turn.frame,
          some (shown.adopt turn.frame)) := if_pos hdirty
    rw [hsent]
    apply Refreshed.sent (dirty_adopt.mp hdirty) ⟨geometry_adopt, hcontent⟩
    · split <;> exact ⟨geometry_adopt, hcontent⟩
    · cases turn.succeeds with
      | true => rfl
      | false => exact hdirty
  · have hskipped : shown.refresh turn.frame turn.succeeds = (shown.adopt turn.frame, none) :=
      if_neg hdirty
    rw [dirty_adopt, not_or, not_not, Bool.not_eq_true] at hdirty
    have hkept : shown.adopt turn.frame = shown := if_pos hdirty.2
    rw [hskipped, hkept]
    exact .skipped hdirty.1 hdirty.2

theorem geometry_refresh (shown frame : CharGrid capacity) (succeeds : Bool) :
    (shown.refresh frame succeeds).1.geometry = shown.geometry := by
  rw [refresh]
  split
  · split <;> exact geometry_adopt
  · exact geometry_adopt

/-! ## Turn after turn -/

/-- What should be shown after so many turns. -/
def refreshAll (turns : List (PanelTurn capacity)) (shown : CharGrid capacity) :
    CharGrid capacity :=
  turns.foldl (fun shown turn => (shown.refresh turn.frame turn.succeeds).1) shown

/-- The grids that were sent, in order, and whether the panel took them. -/
def attempts :
    List (PanelTurn capacity) → CharGrid capacity → List (CharGrid capacity × Bool)
  | [], _ => []
  | turn :: later, shown =>
    let (next, sent) := shown.refresh turn.frame turn.succeeds
    sent.toList.map (fun grid => (grid, turn.succeeds)) ++ attempts later next

/-- The attempts of a panel that is sent every frame. -/
def allAttempts (turns : List (PanelTurn capacity)) : List (CharGrid capacity × Bool) :=
  turns.map fun turn => (turn.frame, turn.succeeds)

/-- The content of the last grid that the panel took. -/
def contentTaken? (tried : List (CharGrid capacity × Bool)) : Option (List UInt8) :=
  (tried.filter Prod.snd).getLast?.map fun attempt => attempt.1.content

theorem refreshAll_concat (turns : List (PanelTurn capacity)) (turn : PanelTurn capacity)
    (shown : CharGrid capacity) :
    shown.refreshAll (turns ++ [turn]) =
      ((shown.refreshAll turns).refresh turn.frame turn.succeeds).1 :=
  List.foldl_concat ..

theorem geometry_refreshAll (turns : List (PanelTurn capacity)) (shown : CharGrid capacity) :
    (shown.refreshAll turns).geometry = shown.geometry := by
  induction turns using List.reverseRecOn with
  | nil => rfl
  | append_singleton turns turn ih => rw [refreshAll_concat, geometry_refresh, ih]

theorem attempts_concat (turns : List (PanelTurn capacity)) (turn : PanelTurn capacity)
    (shown : CharGrid capacity) :
    attempts (turns ++ [turn]) shown = attempts turns shown ++
      ((shown.refreshAll turns).refresh turn.frame turn.succeeds).2.toList.map
        (fun grid => (grid, turn.succeeds)) := by
  induction turns generalizing shown with
  | nil => exact List.append_nil _
  | cons first later ih =>
      rw [List.cons_append, attempts, attempts]
      dsimp only
      rw [ih, List.append_assoc]
      rfl

theorem contentTaken?_concat (tried : List (CharGrid capacity × Bool)) (grid : CharGrid capacity)
    (taken : Bool) :
    contentTaken? (tried ++ [(grid, taken)]) =
      if taken then some grid.content else contentTaken? tried := by
  cases taken <;> simp [contentTaken?]

/-- How a grid is in step with the attempts that were made to send it. -/
structure Maintained (geometry : Geometry) (turns : List (PanelTurn capacity))
    (tried : List (CharGrid capacity × Bool)) (shown : CharGrid capacity) : Prop where
  geometry_eq : shown.geometry = geometry
  dirty_iff : shown.dirty = true ↔ turns = [] ∨ ∃ grid, tried.getLast? = some (grid, false)
  taken : shown.dirty = false → contentTaken? tried = some shown.content

section

variable {geometry : Geometry} {turns : List (PanelTurn capacity)} {turn : PanelTurn capacity}
  {tried : List (CharGrid capacity × Bool)} {shown : CharGrid capacity}
  {outcome : CharGrid capacity × Option (CharGrid capacity)}

theorem Maintained.refreshed (hbefore : Maintained geometry turns tried shown)
    (houtcome : Refreshed shown turn outcome) :
    Maintained geometry (turns ++ [turn])
      (tried ++ outcome.2.toList.map fun grid => (grid, turn.succeeds)) outcome.1 := by
  cases houtcome with
  | skipped hclean hsame =>
      have hno := hbefore.dirty_iff.not.mp (Bool.eq_false_iff.mp hclean)
      rw [Option.toList_none, List.map_nil, List.append_nil]
      refine ⟨hbefore.geometry_eq, ?_, hbefore.taken⟩
      rw [hclean]
      simpa using (not_or.mp hno).2
  | @sent next sent hdue hsent hnext hdirty =>
      rw [Option.toList_some, List.map_singleton]
      refine ⟨hnext.1.trans hbefore.geometry_eq, ?_, ?_⟩
      · rw [hdirty, List.getLast?_concat]
        simp
      · intro hclean
        have hsucceeds : turn.succeeds = true := by simpa [hdirty] using hclean
        rw [contentTaken?_concat, if_pos hsucceeds, hsent.2, hnext.2]

/-- A frame is sent if it is the first one, if the last attempt failed, or if the panel does not
show it yet. -/
theorem Maintained.isSome_sent_iff (hbefore : Maintained geometry turns tried shown)
    (houtcome : Refreshed shown turn outcome) :
    outcome.2.isSome = true ↔ turns = [] ∨ (∃ grid, tried.getLast? = some (grid, false)) ∨
      contentTaken? tried ≠ some turn.frame.content := by
  rw [← or_assoc, ← hbefore.dirty_iff]
  cases houtcome with
  | skipped hclean hsame =>
      have htaken := hbefore.taken hclean
      rw [hsame] at htaken
      simp [hclean, htaken]
  | sent hdue =>
      apply iff_of_true rfl
      by_cases hdirty : shown.dirty = true
      · exact .inl hdirty
      · have hother := hdue.resolve_left hdirty
        rw [hbefore.taken (Bool.not_eq_true _ ▸ hdirty)]
        exact .inr fun hsame => hother (Option.some.inj hsame)

/-- A turn that does not fail leaves its frame on the panel. -/
theorem Maintained.contentTaken?_turn (hbefore : Maintained geometry turns tried shown)
    (houtcome : Refreshed shown turn outcome) (hwell : outcome.2.isSome → turn.succeeds = true) :
    contentTaken? (tried ++ outcome.2.toList.map fun grid => (grid, turn.succeeds)) =
      some turn.frame.content := by
  cases houtcome with
  | skipped hclean hsame =>
      rw [Option.toList_none, List.map_nil, List.append_nil, ← hsame]
      exact hbefore.taken hclean
  | sent hdue hsent =>
      rw [Option.toList_some, List.map_singleton, contentTaken?_concat, if_pos (hwell rfl), hsent.2]

theorem Maintained.sent_looks_like (hbefore : Maintained geometry turns tried shown)
    (houtcome : Refreshed shown turn outcome) (hframe : turn.frame.geometry = geometry)
    {grid : CharGrid capacity} (hgrid : outcome.2 = some grid) :
    grid.content = turn.frame.content ∧ grid.panelTexts = turn.frame.panelTexts := by
  cases houtcome with
  | skipped => contradiction
  | sent _ hsent =>
      obtain rfl := Option.some.inj hgrid
      apply And.intro hsent.2
      apply panelTexts_congr _ hsent.2
      rw [hsent.1, hbefore.geometry_eq, hframe]

theorem refreshed_after
    (hgeometry : ∀ other ∈ turns ++ [turn], other.frame.geometry = geometry) :
    Refreshed ((blank geometry).refreshAll turns) turn
      (((blank geometry).refreshAll turns).refresh turn.frame turn.succeeds) := by
  apply refreshed_refresh
  rw [geometry_refreshAll]
  exact hgeometry turn List.mem_concat_self

theorem maintained_after (hgeometry : ∀ turn ∈ turns, turn.frame.geometry = geometry) :
    Maintained geometry turns (attempts turns (blank geometry))
      ((blank geometry : CharGrid capacity).refreshAll turns) := by
  induction turns using List.reverseRecOn with
  | nil => exact ⟨rfl, iff_of_true rfl (.inl rfl), nofun⟩
  | append_singleton turns turn ih =>
      have hbefore := ih fun other hmem => hgeometry other (List.mem_append_left _ hmem)
      rw [attempts_concat, refreshAll_concat]
      exact hbefore.refreshed (refreshed_after hgeometry)

/-- The panel takes the same contents as if it were sent every frame. -/
theorem contentTaken?_attempts (hgeometry : ∀ turn ∈ turns, turn.frame.geometry = geometry) :
    contentTaken? (attempts turns (blank geometry)) = contentTaken? (allAttempts turns) := by
  induction turns using List.reverseRecOn with
  | nil => rfl
  | append_singleton turns turn ih =>
      have hearlier : ∀ other ∈ turns, other.frame.geometry = geometry :=
        fun other hmem => hgeometry other (List.mem_append_left _ hmem)
      have hbefore := maintained_after hearlier
      have houtcome := refreshed_after hgeometry
      have hall : allAttempts (turns ++ [turn]) =
          allAttempts turns ++ [(turn.frame, turn.succeeds)] := List.map_append ..
      rw [attempts_concat, hall, contentTaken?_concat]
      by_cases hsucceeds : turn.succeeds = true
      · rw [if_pos hsucceeds]
        exact hbefore.contentTaken?_turn houtcome fun _ => hsucceeds
      · rw [if_neg hsucceeds, ← ih hearlier]
        generalize (CharGrid.refresh _ _ _) = outcome at houtcome ⊢
        cases houtcome with
        | skipped => rw [Option.toList_none, List.map_nil, List.append_nil]
        | sent =>
            rw [Option.toList_some, List.map_singleton, contentTaken?_concat, if_neg hsucceeds]

end

/-- In every turn, whatever frames came before it and whichever of them could be sent: a grid is
sent exactly if this is the first turn, if the last attempt failed, or if the frame differs from
what the panel last took.  What is sent looks like the frame, and unless it is refused the panel has
the frame then.  The last content that the panel took is always the one it would have if every
frame had been sent. -/
theorem panel_up_to_date {geometry : Geometry} {start : CharGrid capacity}
    (hstart : make geometry = .ok start) {turns : List (PanelTurn capacity)}
    {turn : PanelTurn capacity}
    (hgeometry : ∀ other ∈ turns ++ [turn], other.frame.geometry = geometry) :
    let shown := start.refreshAll turns
    let tried := attempts turns start
    let sent := (shown.refresh turn.frame turn.succeeds).2
    let triedNow := attempts (turns ++ [turn]) start
    (sent.isSome = true ↔ turns = [] ∨ (∃ grid, tried.getLast? = some (grid, false)) ∨
      contentTaken? tried ≠ some turn.frame.content) ∧
    (∀ grid, sent = some grid →
      grid.content = turn.frame.content ∧ grid.panelTexts = turn.frame.panelTexts) ∧
    triedNow = tried ++ sent.toList.map (fun grid => (grid, turn.succeeds)) ∧
    ((sent.isSome = true → turn.succeeds = true) →
      contentTaken? triedNow = some turn.frame.content) ∧
    contentTaken? triedNow = contentTaken? (allAttempts (turns ++ [turn])) := by
  intro shown tried sent triedNow
  obtain rfl := make_eq_ok hstart
  have hbefore : Maintained geometry turns tried shown :=
    maintained_after fun other hmem => hgeometry other (List.mem_append_left _ hmem)
  have hframe : turn.frame.geometry = geometry := hgeometry turn List.mem_concat_self
  have houtcome : Refreshed shown turn (shown.refresh turn.frame turn.succeeds) :=
    refreshed_after hgeometry
  have htriedNow : triedNow = tried ++ sent.toList.map fun grid => (grid, turn.succeeds) :=
    attempts_concat ..
  refine ⟨hbefore.isSome_sent_iff houtcome, ?_, htriedNow, ?_, contentTaken?_attempts hgeometry⟩
  · intro grid hgrid
    exact hbefore.sent_looks_like houtcome hframe hgrid
  · intro hwell
    rw [htriedNow]
    exact hbefore.contentTaken?_turn houtcome hwell

/-- A frame that had to be sent twice is not sent again. -/
theorem panel_up_to_date_of_second_attempt :
    let geometry : Geometry := { cols := 2, rows := 1 }
    let start : CharGrid 2 := blank geometry
    let frame : CharGrid 2 := { start with cells := #v[0x61, 0x62], cursor := 2 }
    let turns : List (PanelTurn 2) := [⟨frame, false⟩, ⟨frame, true⟩]
    make geometry = .ok start ∧
      (∀ other ∈ turns ++ [⟨frame, false⟩], other.frame.geometry = geometry) ∧
      (attempts turns start).map Prod.snd = [false, true] ∧
      ((start.refreshAll turns).refresh frame false).2 = none ∧
      contentTaken? (attempts (turns ++ [⟨frame, false⟩]) start) = some [0x61, 0x62] := by
  intro geometry start frame turns
  have hstart : make geometry = .ok start := rfl
  have hgeometry : ∀ other ∈ turns ++ [⟨frame, false⟩], other.frame.geometry = geometry := by decide
  have hskipped : ((start.refreshAll turns).refresh frame false).2 = none := by decide
  obtain ⟨-, -, -, htaken, -⟩ := panel_up_to_date hstart hgeometry
  have hcontent : frame.content = [0x61, 0x62] := by decide
  refine ⟨hstart, hgeometry, by decide, hskipped, ?_⟩
  rw [← hcontent]
  apply htaken
  intro hsent
  dsimp only at hsent
  rw [hskipped] at hsent
  contradiction

end CharGrid

end SplitPanel.Screen

import Mathlib
import SplitPanel.Host.Loopback
import SplitPanel.Proofs.Journals

/-!
# Tags on the master screen

A session goes from stage to stage, whatever its connection and its surroundings do.  Its journal
stays orderly on the way, its tags are those that its events make, and its exchanges do not go on
after a failure.  So the tags on the master screen are up to date whenever an event is waited for,
and a session that is stopped has cleared both screens.
-/

namespace SplitPanel.Host

open Std.Do

namespace Stage

def fault? : Stage → Option HostFault
  | .failed fault => some fault
  | _ => none

/-- The stage that is reached if all goes well. -/
def reached {α : Type} (stage : Stage) : Except HostFault α → Stage
  | .ok _ => stage
  | .error fault => .failed fault

theorem fault?_reached {α : Type} {stage : Stage} (hstage : stage.fault? = none)
    (result : Except HostFault α) : (stage.reached result).fault? = faultOf? result := by
  cases result with
  | error fault => rfl
  | ok value => exact hstage

end Stage

theorem Due.fault?_eq_none {options : Options} {tags : TagBoard} {stage : Stage}
    {activity : Activity} (hdue : Due options tags stage activity) : stage.fault? = none := by
  cases hdue <;> rfl

namespace Session

variable {σ : Type}

theorem run_perform {α : Type} (act : Conversation σ → Conversation σ × Except HostFault α)
    (note : Except HostFault α → Activity) (session : Session σ) :
    (perform act note).run session =
      ((act session.conversation).2,
        { session with
          conversation := (act session.conversation).1
          journal := session.journal ++ [note (act session.conversation).2] }) :=
  rfl

/-- A triple is about what a part of a session comes to, from every session it can start at. -/
theorem triple_iff {α : Type} {part : SessionM σ α} {Pre : Session σ → Prop}
    {Good : α → Session σ → Prop} {Bad : HostFault → Session σ → Prop} :
    ⦃fun session => ⌜Pre session⌝⦄ part
      ⦃post⟨fun value session => ⌜Good value session⌝, fun fault session => ⌜Bad fault session⌝⟩⦄ ↔
    ∀ session, Pre session →
      match part.run session with
      | (.ok value, next) => Good value next
      | (.error fault, next) => Bad fault next := by
  apply forall_congr'
  intro session
  apply imp_congr_right
  intro hpre
  rcases hrun : part.run session with ⟨fault | value, next⟩ <;>
    change StateT.run part.run session = _ at hrun <;>
    simp [wp, hrun, Id.run]

/-- The requests for all that was done. -/
def requests (session : Session σ) : List Request :=
  session.journal.flatMap (Activity.requests session.conversation.rows)

/-- The session after it did something, and took notice of the event if that was one. -/
def noting (activity : Activity) (conversation : Conversation σ) (session : Session σ) :
    Session σ where
  conversation := conversation
  tags := activity.event?.elim session.tags fun event => (session.tags.follow event).1
  nextStats := session.nextStats
  journal := session.journal ++ [activity]

/-- The number of rows is of no importance before the set-up. -/
theorem requests_noting {activity : Activity} {next : Conversation σ} {session : Session σ}
    (hrows : session.journal = [] ∨ next.rows = session.conversation.rows) :
    (session.noting activity next).requests =
      session.requests ++ activity.requests next.rows := by
  rw [requests, requests, noting, List.flatMap_append, List.flatMap_singleton]
  rcases hrows with hfresh | hsame
  · rw [hfresh]
    rfl
  · rw [hsame]

variable [Surroundings σ] {options : Options} {connection : σ}

/-- A session that came to a stage in the right order, and has the tags that its events make. -/
structure Stands (options : Options) (connection : σ) (stage : Stage) (session : Session σ) :
    Prop where
  orderly : options.Orderly session.journal
  stage_eq : options.stageAfter session.journal = stage
  tags_eq : session.tags = options.tagsAfter session.journal
  makes : Conversation.Makes { connection } session.conversation session.requests stage.fault?

theorem stands_start : Stands options connection .fresh (start connection options) where
  orderly := Options.orderly_nil
  stage_eq := rfl
  tags_eq := rfl
  makes := Conversation.makes_nothing _ none

section

variable {stage : Stage} {session : Session σ} {next : Conversation σ}

theorem Stands.noting (hstands : Stands options connection stage session) {activity : Activity}
    (hdue : Due options session.tags stage activity)
    (hrows : stage = .fresh ∨ next.rows = session.conversation.rows)
    (hmakes : Conversation.Makes session.conversation next (activity.requests next.rows)
      (Stage.after session.tags activity).fault?) :
    Stands options connection (.after session.tags activity) (session.noting activity next) where
  orderly := by
    apply hstands.orderly.concat
    rw [hstands.stage_eq, ← hstands.tags_eq]
    exact hdue
  stage_eq := by
    rw [hstands.tags_eq]
    exact options.stageAfter_concat ..
  tags_eq := by
    rw [Session.noting, options.tagsAfter_concat, hstands.tags_eq]
  makes := by
    have hearlier := hstands.makes
    rw [hdue.fault?_eq_none] at hearlier
    rw [requests_noting]
    · exact hearlier.trans hmakes
    · apply hrows.imp_left
      intro hfresh
      exact Options.eq_nil_of_fresh (hstands.stage_eq.trans hfresh)

/-- What is done between two requests does not change how far a session has come. -/
theorem Stands.idled (hstands : Stands options connection stage session)
    (hidle : session.conversation.Idle next) (hrows : next.rows = session.conversation.rows) :
    Stands options connection stage { session with conversation := next } where
  orderly := hstands.orderly
  stage_eq := hstands.stage_eq
  tags_eq := hstands.tags_eq
  makes := by
    rw [requests, hrows]
    exact hstands.makes.idled hidle

theorem Stands.timed (hstands : Stands options connection stage session) (nextStats : ℕ) :
    Stands options connection stage { session with nextStats } where
  orderly := hstands.orderly
  stage_eq := hstands.stage_eq
  tags_eq := hstands.tags_eq
  makes := hstands.makes

end

/-! ## Parts of a session -/

/-- A part of a session starts at a stage and ends at one that may depend on its outcome, or with a
fault. -/
abbrev Leads {α : Type} (options : Options) (connection : σ) (stage : Stage) (part : SessionM σ α)
    (onward : α → Stage) : Prop :=
  ⦃fun session => ⌜Stands options connection stage session⌝⦄ part
  ⦃post⟨fun value session => ⌜Stands options connection (onward value) session⌝,
    fun fault session => ⌜Stands options connection (.failed fault) session⌝⟩⦄

/-- What a conversation does, as it is noted, brings a session from one stage to the next. -/
structure Carries {α : Type} (act : Conversation σ → Conversation σ × Except HostFault α)
    (note : Except HostFault α → Activity) (stage next : Stage) : Prop where
  makes : ∀ conversation, Conversation.Makes conversation (act conversation).1
    ((note (act conversation).2).requests (act conversation).1.rows)
    (faultOf? (act conversation).2)
  rows : stage = .fresh ∨ ∀ conversation, (act conversation).1.rows = conversation.rows
  event : ∀ result, (note result).event? = none
  after : ∀ tags result, Stage.after tags (note result) = next.reached result
  fault : next.fault? = none

/-- What carries a session on does so as a part of it, if it is due. -/
theorem triple_perform {α : Type} {act : Conversation σ → Conversation σ × Except HostFault α}
    {note : Except HostFault α → Activity} {stage next : Stage} {Pre : Session σ → Prop}
    (hact : Carries act note stage next)
    (hpre : ∀ session, Pre session → Stands options connection stage session ∧
      ∀ result, Due options session.tags stage (note result)) :
    ⦃fun session => ⌜Pre session⌝⦄ perform act note
    ⦃post⟨fun _ session => ⌜Stands options connection next session⌝,
      fun fault session => ⌜Stands options connection (.failed fault) session⌝⟩⦄ := by
  apply triple_iff.mpr
  intro session hsession
  obtain ⟨hstands, hdue⟩ := hpre session hsession
  have hmakes := hact.makes session.conversation
  rw [← Stage.fault?_reached hact.fault, ← hact.after session.tags] at hmakes
  have hrows := hact.rows.imp_right fun hrows => hrows session.conversation
  have hnext := hstands.noting (hdue _) hrows hmakes
  rw [hact.after, Session.noting, hact.event] at hnext
  rw [run_perform]
  generalize (act session.conversation).2 = result at hnext ⊢
  cases result <;> exact hnext

theorem carries_learnSize :
    Carries (σ := σ) Conversation.learnSize .setUp .fresh .outdated where
  makes := Conversation.makes_learnSize
  rows := .inl rfl
  event _ := rfl
  after := by rintro _ (_ | _) <;> rfl
  fault := rfl

theorem carries_showScreen (screen : Side) (lines : List String) (stage : Stage) :
    Carries (σ := σ) (·.showScreen screen lines) (.drew screen lines) stage .current where
  makes conversation := by
    rw [Activity.requests, (Conversation.steps_showScreen ..).rows_eq]
    exact conversation.makes_showScreen screen lines
  rows := .inr fun _ => (Conversation.steps_showScreen ..).rows_eq
  event _ := rfl
  after := by rintro _ (_ | _) <;> rfl
  fault := rfl

theorem carries_clearMaster :
    Carries (σ := σ) (·.clear .master) (.cleared .master) .current .clearing where
  makes := Conversation.makes_command (.clear .master)
  rows := .inr fun _ => (Conversation.steps_command ..).rows_eq
  event _ := rfl
  after := by rintro _ (_ | _) <;> rfl
  fault := rfl

theorem carries_clearSlave :
    Carries (σ := σ) (·.clear .slave) (.cleared .slave) .clearing .cleared where
  makes := Conversation.makes_command (.clear .slave)
  rows := .inr fun _ => (Conversation.steps_command ..).rows_eq
  event _ := rfl
  after := by rintro _ (_ | _) <;> rfl
  fault := rfl

theorem leads_learnSize :
    Leads options connection .fresh (perform Conversation.learnSize .setUp) fun _ => .outdated :=
  triple_perform carries_learnSize fun _ hstands => ⟨hstands, .setUp⟩

theorem leads_showStats (lines : List String) :
    Leads options connection .current (showScreen .slave lines) fun _ => .current :=
  triple_perform (carries_showScreen .slave lines .current) fun _ hstands => ⟨hstands, .stats lines⟩

theorem triple_showTags (tags : TagBoard) :
    ⦃fun session => ⌜Stands options connection .outdated session ∧ session.tags = tags⌝⦄
      showScreen .master (options.masterScreen tags)
    ⦃post⟨fun _ session => ⌜Stands options connection .current session⌝,
      fun fault session => ⌜Stands options connection (.failed fault) session⌝⟩⦄ := by
  apply triple_perform (carries_showScreen .master _ .outdated)
  rintro session ⟨hstands, rfl⟩
  exact ⟨hstands, .tags⟩

theorem leads_clearMaster :
    Leads options connection .current (clearScreen .master) fun _ => .clearing :=
  triple_perform carries_clearMaster fun _ hstands => ⟨hstands, .clearMaster⟩

theorem leads_clearSlave :
    Leads options connection .clearing (clearScreen .slave) fun _ => .cleared :=
  triple_perform carries_clearSlave fun _ hstands => ⟨hstands, .clearSlave⟩

/-- An event that was waited for is in the journal at once, and tells the stage as soon as the tags
follow it. -/
theorem triple_nextEvent (wait : ℕ) :
    ⦃fun session => ⌜Stands options connection .current session⌝⦄
      perform (·.nextEvent wait) .polled
    ⦃post⟨fun event session => ⌜Stands options connection
        (.after session.tags (.polled (.ok event)))
        { session with
          tags := event.elim session.tags fun event => (session.tags.follow event).1 }⌝,
      fun fault session => ⌜Stands options connection (.failed fault) session⌝⟩⦄ := by
  apply triple_iff.mpr
  intro session hstands
  have hnext := hstands.noting (.event (session.conversation.nextEvent wait).2)
    (.inr (Conversation.rows_nextEvent ..))
    ((Conversation.makes_nothing ..).idled (.polled session.conversation wait))
  rw [run_perform]
  generalize (session.conversation.nextEvent wait).2 = result at hnext ⊢
  cases result <;> exact hnext

theorem leads_ask {α : Type} {question : σ → σ × α}
    (hidle : ∀ conversation : Conversation σ, conversation.Idle
      { conversation with connection := (question conversation.connection).1 }) (stage : Stage) :
    Leads options connection stage (ask question) fun _ => stage := by
  apply triple_iff.mpr
  intro session hstands
  exact hstands.idled (hidle session.conversation) rfl

theorem leads_clock (stage : Stage) :
    Leads options connection stage (ask Connection.clock) fun _ => stage :=
  leads_ask .clocked stage

theorem leads_sample (stage : Stage) :
    Leads options connection stage (ask Surroundings.sample) fun _ => stage :=
  leads_ask .sampled stage

theorem leads_running (stage : Stage) :
    Leads options connection stage (ask Surroundings.running) fun _ => stage :=
  leads_ask .checked stage

/-! ## The whole session -/

set_option mvcgen.warning false

theorem leads_drawMaster :
    Leads options connection .outdated (drawMaster options) fun _ => .current := by
  unfold drawMaster
  mvcgen [triple_showTags]

theorem leads_drawStats (cols : UInt8) :
    Leads options connection .current (drawStats options cols) fun _ => .current := by
  unfold drawStats
  mvcgen [leads_clock, leads_sample, leads_showStats]
  next hstands _ => exact hstands.timed _

theorem leads_followEvent :
    Leads options connection .current (followEvent options) fun _ => .current := by
  unfold followEvent
  mvcgen [leads_clock, triple_nextEvent, leads_drawMaster]
  · next hstands _ hchanged =>
    rw [Stage.after, if_pos hchanged] at hstands
    exact hstands
  · next hstands _ hsame =>
    rw [Stage.after, if_neg hsame] at hstands
    exact hstands

/-- Whatever comes, the master screen is up to date after every turn. -/
theorem leads_takeTurns (cols : UInt8) (limit : ℕ) :
    Leads options connection .current (takeTurns options cols limit) fun _ => .current := by
  induction limit with
  | zero =>
      unfold takeTurns
      mvcgen
  | succ limit ih =>
      unfold takeTurns
      mvcgen [leads_running, leads_drawStats, leads_followEvent, ih]

/-- How far a session has come when it is over. -/
def lastStage : Except HostFault SessionEnd → Stage
  | .ok .running => .current
  | .ok .stopped => .cleared
  | .error fault => .failed fault

theorem leads_drive (limit : ℕ) :
    Leads options connection .fresh (drive options limit) fun ending => lastStage (.ok ending) := by
  unfold drive
  mvcgen [leads_learnSize, leads_drawMaster, leads_clock, leads_takeTurns, leads_clearMaster,
    leads_clearSlave]
  next hstands _ => exact hstands.timed _

theorem stands_run (options : Options) (limit : ℕ) (connection : σ) :
    Stands options connection (lastStage (run options limit connection).2)
      (run options limit connection).1 := by
  have hstart : Stands options connection .fresh (start connection options) := stands_start
  have hdrive := triple_iff.mp (leads_drive limit) _ hstart
  rw [run]
  rcases hran : (drive options limit).run (start connection options) with ⟨fault | ending, next⟩ <;>
    rw [hran] at hdrive <;> exact hdrive

theorem fault?_lastStage (result : Except HostFault SessionEnd) :
    (lastStage result).fault? = faultOf? result := by
  rcases result with _ | _ | _ <;> rfl

theorem lastStage_ne_outdated (result : Except HostFault SessionEnd) :
    lastStage result ≠ .outdated := by
  rcases result with _ | _ | _ <;> simp [lastStage]

/-- Whatever a connection and its surroundings do, and however many turns are taken: whenever an
event is waited for, the master screen was last drawn without a fault, and with the tags as its
third line that all events so far make.  It is drawn right after the set-up and right after every
event that changes a tag, and at no other time.  All that is written are the requests for what is in
the journal.  One that fails is the last one, and the session ends with its fault; otherwise all of
them are made, and answered with success.  A session that is stopped ends with the requests to clear
the master screen and the slave screen. -/
theorem tags_on_master_screen (options : Options) (limit : ℕ) (connection : σ) :
    let journal := (run options limit connection).1.journal
    let last := (run options limit connection).1.conversation
    let result := (run options limit connection).2
    (∀ earlier event later, journal = earlier ++ .polled event :: later →
      ∃ lines, lastMasterDrawing? earlier = some (lines, .ok ()) ∧
        lines[2]? = some (options.tagsAfter earlier).caption) ∧
    (∀ earlier later, journal = earlier ++ later →
      ((∃ lines drawn rest, later = .drew .master lines drawn :: rest) ↔
        (∃ size, earlier = [.setUp (.ok size)]) ∨
        ∃ before event, earlier = before ++ [.polled (.ok (some event))] ∧
          ((options.tagsAfter before).follow event).2.isSome = true)) ∧
    (∀ earlier lines drawn later, journal = earlier ++ .drew .master lines drawn :: later →
      lines = options.masterScreen (options.tagsAfter earlier)) ∧
    ∃ exchanges, Conversation.Course { connection } exchanges last ∧
      (∀ account, CountsWrites account →
        account last.connection = account connection ++
          exchanges.map fun exchange => exchange.1.toFrame.report) ∧
      exchanges.map Prod.fst <+: journal.flatMap (Activity.requests last.rows) ∧
      (∀ earlier request fault later, exchanges = earlier ++ (request, .error fault) :: later →
        later = [] ∧ result = .error fault) ∧
      (∀ ending, result = .ok ending →
        exchanges.map Prod.fst = journal.flatMap (Activity.requests last.rows) ∧
        ∀ request answer, (request, answer) ∈ exchanges →
          ∃ frame, answer = .ok frame ∧ verdict? request frame = some (.ok frame)) ∧
      (result = .ok .stopped → [.clear .master, .clear .slave] <:+ exchanges.map Prod.fst) := by
  intro journal last result
  have hstands : Stands options connection (lastStage result) _ :=
    stands_run options limit connection
  have horderly : options.Orderly journal := hstands.orderly
  obtain ⟨exchanges, hcourse, hmade⟩ := hstands.makes
  rw [fault?_lastStage] at hmade
  refine ⟨?_, ?_, ?_, exchanges, hcourse, fun account haccount => hcourse.account_eq haccount,
    hmade.made_first, ?_, ?_, ?_⟩
  · intro earlier event later hsplit
    have hearlier : options.Orderly earlier := horderly.of_append hsplit
    have hcurrent := (horderly earlier _ later hsplit).stage_of_polled
    exact ⟨_, hearlier.showsTags hcurrent, rfl⟩
  · intro earlier later hsplit
    rw [← (horderly.of_append hsplit).outdated_iff]
    cases later with
    | nil =>
        rw [List.append_nil] at hsplit
        rw [← hsplit, hstands.stage_eq]
        simp [lastStage_ne_outdated]
    | cons activity rest =>
        rw [← (horderly earlier activity rest hsplit).draws_master_iff]
        simp
  · intro earlier lines drawn later hsplit
    exact (horderly earlier _ later hsplit).lines_eq
  · intro earlier request fault later hsplit
    obtain ⟨hlater, hfault⟩ := hmade.unbroken.last_of_error hsplit
    exact ⟨hlater, faultOf?_eq_some.mp hfault⟩
  · intro ending hending
    rw [hending] at hmade
    refine ⟨hmade.made_all rfl, fun request answer hmem => ?_⟩
    have hanswered := hmade.unbroken.all_answered _ hmem
    cases answer with
    | error fault => contradiction
    | ok frame => exact ⟨frame, rfl, hcourse.verdict_of_ok hmem⟩
  · intro hstopped
    have hcleared : options.stageAfter journal = .cleared := by
      rw [hstands.stage_eq, hstopped]
      rfl
    obtain ⟨earlier, hearlier⟩ := horderly.eq_append_of_cleared hcleared
    rw [hstopped] at hmade
    have hrequests : exchanges.map Prod.fst = journal.flatMap _ := hmade.made_all rfl
    rw [hrequests, hearlier, List.flatMap_append]
    exact List.suffix_append ..

/-- A session with one event, which comes ahead of the first response.  It is polled in the first
turn, and the new tag is on the master screen right after it.  The session is stopped in the third
turn, and its last reports are the requests to clear the screens. -/
theorem tags_on_master_screen_of_one_event :
    let options : Options := { message := "Hi" }
    let rehearsal : Recorded (Rehearsal 3) := {
      connection := {
        board := {
          master := { role := .master, screen := .cleared ⟨1, 3⟩, outbox := .empty }
          slave := { role := .slave, screen := .cleared ⟨1, 3⟩, outbox := .empty }
          terminal := .start
          autoLink := true
          muted := false
          corruption := none
          beforeReply := [(TagEvent.increment .master).toFrame]
          reads := []
          arrivals := [] }
        script := []
        running := true
        written := []
        failAt := none
        muteAt := none } }
    let ending := run options 3 rehearsal
    ending.2 = .ok .stopped ∧
      (∃ earlier drawn later,
        ending.1.journal = earlier ++ .polled (.ok (some (.increment .master))) ::
          .drew .master ["Layer: %l", "Hi", "Tags: M1 S0"] drawn :: later ∧
        ∃ lines, lastMasterDrawing? earlier = some (lines, .ok ()) ∧
          lines[2]? = some "Tags: M0 S0") ∧
      ∃ requests : List Request, [.clear .master, .clear .slave] <:+ requests ∧
        ending.1.conversation.connection.attempted =
          requests.map fun request => request.toFrame.report := by
  intro options rehearsal ending
  let earlier : List Activity := [
    .setUp (.ok (1, 3)),
    .drew .master (options.masterScreen (.make options.tags)) (.ok ()),
    .drew .slave ["CPU%[]", "Mem%[]", "Swap[]", "Disk[]"] (.ok ())]
  let event : TagEvent := .increment .master
  have hran : ending.2 = .ok .stopped ∧
      ending.1.journal.take 4 = earlier ++ [.polled (.ok (some event))] := by
    dsimp only [ending, rehearsal, options, earlier, event]
    simp only [run, drive, takeTurns, drawStats]
    -- Fractions do not compute, but a screen of one column has no room for bars.
    rw [Usage.lines_eq_ite]
    cbv
  obtain ⟨hstopped, htaken⟩ := hran
  obtain ⟨later, hlater⟩ : ∃ later,
      ending.1.journal = (earlier ++ [.polled (.ok (some event))]) ++ later :=
    ⟨ending.1.journal.drop 4, by rw [← htaken, List.take_append_drop]⟩
  obtain ⟨hcurrent, hdrawn, hlines, exchanges, -, hattempted, -, -, -, hlast⟩ :=
    tags_on_master_screen options 3 rehearsal
  have hbefore : (options.tagsAfter earlier).caption = "Tags: M0 S0" := by cbv
  have hafter : options.masterScreen (options.tagsAfter (earlier ++ [.polled (.ok (some event))])) =
      ["Layer: %l", "Hi", "Tags: M1 S0"] := by cbv
  obtain ⟨before, hshown, hthird⟩ := hcurrent earlier (.ok (some event)) later hlater
  rw [hbefore] at hthird
  obtain ⟨after, drawn, rest, rfl⟩ := (hdrawn _ later hlater).mpr (.inr ⟨earlier, event, rfl, rfl⟩)
  rw [hlines _ after drawn rest hlater, hafter] at hlater
  refine ⟨hstopped, ⟨earlier, drawn, rest, hlater, before, hshown, hthird⟩,
    exchanges.map Prod.fst, hlast hstopped, ?_⟩
  rw [List.map_map]
  exact hattempted _ Recorded.countsWrites_attempted

end Session

end SplitPanel.Host

import SplitPanel.Half.Schedule
import SplitPanel.Proofs.Relaying

/-!
# Turns at the station

A step of a task that uses the station is several things in one: the task takes the station, works
with it, and lets it go.  Here they come apart, and those of all tasks follow one another in any
order, as long as only one task has the station at a time.  A step as a whole is some turns of its
task, so the half takes no other way than those that are possible here.
-/

namespace SplitPanel

open Link (Note)

variable {capacity rows cols : ℕ}

/-- Who has the station, and how far it has come. -/
inductive Holder (capacity : ℕ) where
  | nobody
  /-- The task of the host, with a frame to run. -/
  | host (frame : Frame)
  /-- The task of the host, with a signal to set for the frame that was run. -/
  | ran (frame : Frame) (execution : Execution capacity)
  /-- The task of the host, with a response to give. -/
  | signalled (frame : Frame) (execution : Execution capacity)
  /-- The task that sends, before it looks. -/
  | sender
  /-- The task that sends, with the packet to write if there was a frame. -/
  | took (packet? : Option (List UInt8))

/-- A half and the task that has its station. -/
structure LockedHalf (capacity rows cols : ℕ) where
  half : Half capacity rows cols
  holder : Holder capacity

/-- What can come next: a part of a step, or something that no task does. -/
inductive Turn (rows : ℕ) where
  | task (task : Task)
  | happens (happening : Happening)
  /-- The switches of a row are sampled. -/
  | sample (row : Fin rows)
  /-- A millisecond is over. -/
  | tick

/-- The end of a millisecond. -/
def Half.tick (half : Half capacity rows cols) : Half capacity rows cols :=
  { half with
    elapsed := half.elapsed + 1
    redrawDue := half.redrawDue || (half.elapsed + 1) % redrawPeriod = 0 }

namespace LockedHalf

/-- Nobody has the station. -/
def free (half : Half capacity rows cols) : LockedHalf capacity rows cols where
  half := half
  holder := .nobody

/-- Takes the station, unless it has to be waited for. -/
def acquire (holder : Holder capacity) (locked : LockedHalf capacity rows cols) :
    LockedHalf capacity rows cols :=
  match locked.holder with
  | .nobody => { locked with holder }
  | _ => locked

/-- Takes a step that does not need the station, unless it has to be waited for. -/
def proceed (next? : Option (Half capacity rows cols)) (locked : LockedHalf capacity rows cols) :
    LockedHalf capacity rows cols :=
  { locked with half := next?.getD locked.half }

/-- Takes a step that needs the station, unless either has to be waited for. -/
def proceedAlone (next? : Option (Half capacity rows cols))
    (locked : LockedHalf capacity rows cols) : LockedHalf capacity rows cols :=
  match locked.holder with
  | .nobody => locked.proceed next?
  | _ => locked

/-- The task of the host runs its frame, sets a signal, and lets the station go. -/
def stepHost (locked : LockedHalf capacity rows cols) : LockedHalf capacity rows cols × Note :=
  match locked.holder with
  | .host frame =>
    let execution := locked.half.station.run frame
    ({ half := { locked.half with station := execution.station }, holder := .ran frame execution },
      .executed (Report.ofBytes frame.bytes) execution.outcome)
  | .ran frame execution =>
    ({ half := locked.half.signalOutcome execution.outcome, holder := .signalled frame execution },
      .nothing)
  | .signalled _ execution =>
    let response := locked.half.station.answer? execution.response
    (free { locked.half with hostTask := .replying response }, .nothing)
  | _ =>
    match locked.half.hostTask with
    | .holding frame => (locked.acquire (.host frame), .nothing)
    | _ => (locked.proceed locked.half.stepHost, .nothing)

/-- The task that sends takes the parked frame and lets the station go. -/
def stepSender (locked : LockedHalf capacity rows cols) : LockedHalf capacity rows cols × Note :=
  match locked.holder with
  | .sender =>
    let (station, packet?) := Link.takeOutgoing locked.half.station
    ({ half := { locked.half with station }, holder := .took packet? },
      if packet?.isSome then .transmitted locked.half.station.outbox.message else .nothing)
  | .took packet? => (free { locked.half with linkTask := .sending packet? }, .nothing)
  | _ =>
    match locked.half.linkTask with
    | .woken => (locked.acquire .sender, .nothing)
    | _ => (locked.proceed locked.half.stepSender, .nothing)

/-- Time is let pass by sampling and ticking. -/
def step (turn : Turn rows) (locked : LockedHalf capacity rows cols) :
    LockedHalf capacity rows cols × Note :=
  match turn with
  | .task .keys => (locked.proceed locked.half.stepKeys, .nothing)
  | .task .host => locked.stepHost
  | .task .sender => locked.stepSender
  | .task .receiver => (locked.proceedAlone locked.half.stepReceiver, .nothing)
  | .task .panel => (locked.proceedAlone locked.half.stepPanel, .nothing)
  | .happens (.time _) => (locked, .nothing)
  | .happens happening => ({ locked with half := locked.half.receive happening }, .nothing)
  | .sample row => ({ locked with half := locked.half.sampleRow row }, .nothing)
  | .tick => ({ locked with half := locked.half.tick }, .nothing)

def run : List (Turn rows) → LockedHalf capacity rows cols →
    LockedHalf capacity rows cols × List Note
  | [], locked => (locked, [])
  | turn :: rest, locked =>
    let (next, note) := locked.step turn
    let (last, notes) := run rest next
    (last, note :: notes)

theorem run_cons (turn : Turn rows) (rest : List (Turn rows))
    (locked : LockedHalf capacity rows cols) :
    locked.run (turn :: rest) = (((locked.step turn).1.run rest).1,
      (locked.step turn).2 :: ((locked.step turn).1.run rest).2) :=
  rfl

theorem run_append (first second : List (Turn rows)) (locked : LockedHalf capacity rows cols) :
    locked.run (first ++ second) =
      (((locked.run first).1.run second).1,
        (locked.run first).2 ++ ((locked.run first).1.run second).2) := by
  induction first generalizing locked with
  | nil => rfl
  | cons turn rest ih =>
      rw [List.cons_append, run_cons, run_cons, ih]
      rfl

end LockedHalf

/-! ## Steps that leave the outbox alone -/

namespace Half

/-- The station, the signal for a parked frame, the task that sends and what it has written are the
same in both. -/
structure SameParking (next half : Half capacity rows cols) : Prop where
  station_eq : next.station = half.station
  relayPending_eq : next.relayPending = half.relayPending
  linkTask_eq : next.linkTask = half.linkTask
  written_eq : next.toLink.written = half.toLink.written
  failing_eq : next.toLink.failing = half.toLink.failing

variable {half next : Half capacity rows cols}

theorem SameParking.refl (half : Half capacity rows cols) : SameParking half half :=
  ⟨rfl, rfl, rfl, rfl, rfl⟩

theorem SameParking.getD {next? : Option (Half capacity rows cols)}
    (hstep : ∀ next, next? = some next → SameParking next half) :
    SameParking (next?.getD half) half := by
  cases next? with
  | none => exact .refl half
  | some next => exact hstep next rfl

theorem station_signalOutcome (outcome : Except RunFault Outcome)
    (half : Half capacity rows cols) : (half.signalOutcome outcome).station = half.station := by
  rw [signalOutcome.eq_def]
  split <;> rfl

theorem linkTask_signalOutcome (outcome : Except RunFault Outcome)
    (half : Half capacity rows cols) : (half.signalOutcome outcome).linkTask = half.linkTask := by
  rw [signalOutcome.eq_def]
  split <;> rfl

theorem toLink_signalOutcome (outcome : Except RunFault Outcome)
    (half : Half capacity rows cols) : (half.signalOutcome outcome).toLink = half.toLink := by
  rw [signalOutcome.eq_def]
  split <;> rfl

/-- A signal that is set stays set. -/
theorem relayPending_signalOutcome {outcome : Except RunFault Outcome}
    (hsignal : half.relayPending = true) : (half.signalOutcome outcome).relayPending = true := by
  rw [signalOutcome.eq_def]
  split
  · exact hsignal
  · rfl
  · exact hsignal

theorem sameParking_stepKeys (hstep : half.stepKeys = some next) : SameParking next half := by
  rw [stepKeys] at hstep
  split at hstep
  · contradiction
  · cases hstep
    exact ⟨rfl, rfl, rfl, rfl, rfl⟩

theorem sameParking_listen (hstep : half.listen = some next) : SameParking next half := by
  rw [listen] at hstep
  split at hstep
  · split at hstep <;> cases hstep <;> exact ⟨rfl, rfl, rfl, rfl, rfl⟩
  · cases hstep
    exact ⟨rfl, rfl, rfl, rfl, rfl⟩
  · split at hstep
    · contradiction
    · cases hstep
      exact ⟨rfl, rfl, rfl, rfl, rfl⟩

/-- Until it has a frame to run, the task of the host only reads and writes. -/
theorem sameParking_stepHost (hidle : ∀ frame, half.hostTask ≠ .holding frame)
    (hstep : half.stepHost = some next) : SameParking next half := by
  rw [stepHost] at hstep
  split at hstep
  · contradiction
  · split at hstep
    · exact sameParking_listen hstep
    · next frame hholding => exact absurd hholding (hidle frame)
    · obtain ⟨toHost, -, rfl⟩ := Option.map_eq_some_iff.mp hstep
      exact ⟨rfl, rfl, rfl, rfl, rfl⟩

theorem sameParking_getD_stepHost (hidle : ∀ frame, half.hostTask ≠ .holding frame) :
    SameParking (half.stepHost.getD half) half :=
  .getD fun _ hstep => sameParking_stepHost hidle hstep

theorem sameParking_redraw (shown : Screen.CharGrid capacity) (half : Half capacity rows cols) :
    SameParking (half.redraw shown) half := by
  rw [redraw]
  split <;> exact ⟨rfl, rfl, rfl, rfl, rfl⟩

theorem sameParking_stepPanel (hstep : half.stepPanel = some next) : SameParking next half := by
  rw [stepPanel] at hstep
  split at hstep
  · contradiction
  · split at hstep
    · cases hstep
      have hdrawn := sameParking_redraw ‹_› { half with redrawDue := false }
      exact ⟨hdrawn.1, hdrawn.2, hdrawn.3, hdrawn.4, hdrawn.5⟩
    · split at hstep
      · cases hstep
        have hdrawn := sameParking_redraw ‹_› { half with screenChanged := false }
        exact ⟨hdrawn.1, hdrawn.2, hdrawn.3, hdrawn.4, hdrawn.5⟩
      · contradiction

theorem stepReceiver_of_master (hrole : half.station.role = .master) :
    half.stepReceiver = none :=
  if_pos hrole

theorem sameParking_sampleRow (half : Half capacity rows cols) (row : Fin rows) :
    SameParking (half.sampleRow row) half :=
  ⟨rfl, rfl, rfl, rfl, rfl⟩

theorem sameParking_tick (half : Half capacity rows cols) : SameParking half.tick half :=
  ⟨rfl, rfl, rfl, rfl, rfl⟩

theorem sameParking_receive {happening : Happening}
    (htime : ∀ milliseconds, happening ≠ .time milliseconds)
    (hlost : happening ≠ .linkWriteFails) :
    SameParking (half.receive happening) half := by
  cases happening with
  | switch row col closed =>
      rw [receive, setSwitch]
      split <;> exact ⟨rfl, rfl, rfl, rfl, rfl⟩
  | time milliseconds => exact absurd rfl (htime milliseconds)
  | linkWriteFails => exact absurd rfl hlost
  | _ => exact ⟨rfl, rfl, rfl, rfl, rfl⟩

end Half

namespace LockedHalf

variable {locked : LockedHalf capacity rows cols}

theorem proceedAlone_cases {next? : Option (Half capacity rows cols)}
    (hstep : ∀ next, next? = some next → next.SameParking locked.half) :
    ∃ next : Half capacity rows cols, next.SameParking locked.half ∧
      locked.proceedAlone next? = { locked with half := next } := by
  rw [proceedAlone]
  split
  · exact ⟨_, .getD hstep, rfl⟩
  · exact ⟨_, .refl _, rfl⟩

/-- In the master half only the task of the host and the task that sends have to do with parked
frames. -/
theorem step_cases (hrole : locked.half.station.role = .master) (turn : Turn rows) :
    turn = .task .host ∨ turn = .task .sender ∨ turn = .happens .linkWriteFails ∨
      turn ≠ .task .sender ∧ ∃ next : Half capacity rows cols, next.SameParking locked.half ∧
        locked.step turn = ({ locked with half := next }, .nothing) := by
  fun_cases LockedHalf.step turn locked with
  | case1 =>
      have hsame : (locked.half.stepKeys.getD locked.half).SameParking locked.half :=
        .getD fun _ => Half.sameParking_stepKeys
      exact .inr (.inr (.inr ⟨by simp, _, hsame, rfl⟩))
  | case2 => exact .inl rfl
  | case3 => exact .inr (.inl rfl)
  | case4 =>
      rw [Half.stepReceiver_of_master hrole]
      obtain ⟨next, hsame, hnext⟩ := @proceedAlone_cases _ _ _ locked none (by simp)
      exact .inr (.inr (.inr ⟨by simp, next, hsame, by rw [hnext]⟩))
  | case5 =>
      obtain ⟨next, hsame, hnext⟩ := proceedAlone_cases fun _ => Half.sameParking_stepPanel
      exact .inr (.inr (.inr ⟨by simp, next, hsame, by rw [hnext]⟩))
  | case6 => exact .inr (.inr (.inr ⟨by simp, _, .refl _, rfl⟩))
  | case7 happening htime =>
      by_cases hlost : happening = .linkWriteFails
      · subst hlost
        exact .inr (.inr (.inl rfl))
      · exact .inr (.inr (.inr ⟨by simp, _, Half.sameParking_receive htime hlost, rfl⟩))
  | case8 row => exact .inr (.inr (.inr ⟨by simp, _, Half.sameParking_sampleRow _ row, rfl⟩))
  | case9 => exact .inr (.inr (.inr ⟨by simp, _, Half.sameParking_tick _, rfl⟩))

end LockedHalf

/-! ## Steps as turns -/

namespace Half

open LockedHalf (free run_append)

variable {half next last : Half capacity rows cols}

/-- Whether some turns lead from one half to the other, with nobody at the station. -/
def Reaches (half next : Half capacity rows cols) : Prop :=
  ∃ turns, ((free half).run turns).1 = free next

theorem Reaches.refl (half : Half capacity rows cols) : Reaches half half :=
  ⟨[], rfl⟩

theorem Reaches.trans (hfirst : Reaches half next) (hsecond : Reaches next last) :
    Reaches half last := by
  obtain ⟨first, hnext⟩ := hfirst
  obtain ⟨second, hlast⟩ := hsecond
  refine ⟨first ++ second, ?_⟩
  rw [run_append, hnext, hlast]

/-- A single turn that leaves the station free. -/
theorem Reaches.of_step (turn : Turn rows) (hstep : ((free half).step turn).1 = free next) :
    Reaches half next :=
  ⟨[turn], hstep⟩

theorem runFrame_eq_signalOutcome (frame : Frame) (half : Half capacity rows cols) :
    half.runFrame frame =
      { signalOutcome (half.station.run frame).outcome
          { half with station := (half.station.run frame).station } with
        hostTask := .replying ((half.station.run frame).station.answer?
          (half.station.run frame).response) } := by
  rw [runFrame, signalOutcome.eq_def, signalOutcome.eq_def]
  split <;> rfl

/-- A frame of the host is run in four turns. -/
theorem reaches_runFrame {frame : Frame} (htask : half.hostTask = .holding frame) :
    Reaches half (half.runFrame frame) := by
  refine ⟨List.replicate 4 (.task .host), ?_⟩
  have hfirst : (free half).stepHost = ({ half, holder := .host frame }, .nothing) := by
    simp [LockedHalf.stepHost, free, LockedHalf.acquire, htask]
  rw [runFrame_eq_signalOutcome]
  simp only [List.replicate, LockedHalf.run, LockedHalf.step, hfirst]
  simp only [LockedHalf.stepHost, station_signalOutcome]

/-- A parked frame is taken in three turns. -/
theorem reaches_takeOutgoing (htask : half.linkTask = .woken) :
    Reaches half { half with
      station := (Link.takeOutgoing half.station).1
      linkTask := .sending (Link.takeOutgoing half.station).2 } := by
  refine ⟨List.replicate 3 (.task .sender), ?_⟩
  have hfirst : (free half).stepSender = ({ half, holder := .sender }, .nothing) := by
    simp [LockedHalf.stepSender, free, LockedHalf.acquire, htask]
  simp only [List.replicate, LockedHalf.run, LockedHalf.step, hfirst]
  rfl

theorem reaches_stepHost (hstep : half.stepHost = some next) : Reaches half next := by
  by_cases hholding : ∃ frame, half.hostTask = .holding frame
  · obtain ⟨frame, htask⟩ := hholding
    rw [stepHost] at hstep
    split at hstep
    · contradiction
    · rw [htask] at hstep
      cases hstep
      exact reaches_runFrame htask
  · have hturn : ((free half).step (.task .host)).1 = (free half).proceed half.stepHost := by
      cases htask : half.hostTask with
      | holding frame => exact absurd ⟨frame, htask⟩ hholding
      | listening | writing => simp [LockedHalf.step, LockedHalf.stepHost, free, htask]
    rw [hstep] at hturn
    exact .of_step _ hturn

theorem reaches_stepSender (hstep : half.stepSender = some next) : Reaches half next := by
  by_cases hwoken : half.linkTask = .woken
  · rw [stepSender] at hstep
    split at hstep
    · contradiction
    · rw [hwoken] at hstep
      cases hstep
      exact reaches_takeOutgoing hwoken
  · have hturn : ((free half).step (.task .sender)).1 = (free half).proceed half.stepSender := by
      cases htask : half.linkTask with
      | woken => exact absurd htask hwoken
      | waiting | writing => simp [LockedHalf.step, LockedHalf.stepSender, free, htask]
    rw [hstep] at hturn
    exact .of_step _ hturn

/-- A step of a task is some turns of that task. -/
theorem reaches_step (hrole : half.station.role = .master) {task : Task}
    (hstep : half.step task = some next) : Reaches half next := by
  cases task with
  | keys =>
      have hturn : ((free half).step (.task .keys)).1 = (free half).proceed half.stepKeys := rfl
      rw [show half.stepKeys = some next from hstep] at hturn
      exact .of_step _ hturn
  | host => exact reaches_stepHost hstep
  | sender => exact reaches_stepSender hstep
  | receiver =>
      rw [step, stepReceiver_of_master hrole] at hstep
      contradiction
  | panel =>
      have hturn : ((free half).step (.task .panel)).1 = (free half).proceed half.stepPanel := rfl
      rw [show half.stepPanel = some next from hstep] at hturn
      exact .of_step _ hturn

theorem reaches_turn (hrole : half.station.role = .master) (hturn : half.turn = some next) :
    Reaches half next := by
  obtain ⟨task, -, hstep⟩ := List.exists_of_findSome?_eq_some hturn
  exact reaches_step hrole hstep

theorem settle_of_turn (hturn : half.turn = some next) : half.settle = next.settle := by
  rw [settle]
  split
  · next hnone =>
    rw [hturn] at hnone
    contradiction
  · next other hother =>
    rw [hturn] at hother
    cases hother
    rfl

theorem settle_of_waiting (hturn : half.turn = none) : half.settle = half := by
  rw [settle]
  split
  · rfl
  · next other hother =>
    rw [hturn] at hother
    contradiction

/-- Once the tasks have run, each of them waits. -/
theorem turn_settle (half : Half capacity rows cols) : half.settle.turn = none := by
  induction half using settle.induct with
  | case1 half hturn =>
      rw [settle_of_waiting hturn]
      exact hturn
  | case2 half next hturn ih =>
      rw [settle_of_turn hturn]
      exact ih

theorem passMillisecond_eq_tick (half : Half capacity rows cols) :
    half.passMillisecond =
      ((List.finRange rows).foldl (fun half row => (half.sampleRow row).settle) half).tick.settle :=
  rfl

end Half

end SplitPanel

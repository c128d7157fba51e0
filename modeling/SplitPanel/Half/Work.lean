import SplitPanel.Half.Tasks

/-!
# Work of a half

The tasks of a half set one another going, but every step leaves less to do: a frame from the
host can still wake the link and the panel, a parked frame only the link, and a byte from the
link only the panel.
-/

namespace SplitPanel

/-- A bound on the steps that a read leads to. -/
def Arriving.work : Arriving → Nat
  | .data bytes => 2 * bytes.length + 1
  | .failure => 1

/-- A bound on the steps that lead from here back to listening. -/
def HostTask.work : HostTask → Nat
  | .listening => 0
  | .holding _ => 6
  | .writing _ => 1

/-- A bound on the steps that lead from here back to waiting. -/
def LinkTask.work : LinkTask → Nat
  | .waiting => 0
  | .woken => 2
  | .writing _ => 1

/-- A response, and both signals, are less than a frame to run. -/
theorem HostTask.work_replying (response : Option Frame) (frame : Frame) :
    (replying response).work + 3 < (holding frame).work := by
  cases response <;> simp [replying, work]

theorem LinkTask.work_sending (packet : Option (List UInt8)) :
    (sending packet).work < woken.work := by
  cases packet <;> simp [sending, work]

namespace Half

variable {capacity rows cols : Nat} {half next : Half capacity rows cols}

/-- A bound on the steps that are left until every task waits. -/
def work (half : Half capacity rows cols) : Nat :=
  3 * half.keyEvents.length + 2 * half.eventSource.sink.reports.length +
    7 * half.fromHost.length + half.hostTask.work +
    3 * half.relayPending.toNat + half.linkTask.work +
    half.fromLink.foldr (fun arriving left => arriving.work + left) 0 +
    half.screenChanged.toNat + half.redrawDue.toNat

theorem length_reports_emit (tag : TagEvent) (eventSource : Keys.EventSource Keys.ReportQueue) :
    ((eventSource.emit tag).toOption.getD eventSource).sink.reports.length ≤
      eventSource.sink.reports.length + 1 := by
  rw [Keys.EventSource.emit, Keys.EventSource.send]
  split
  · split
    · rename_i sink hsink
      simp [Except.toOption, Keys.ReportQueue.reports_accept hsink]
    · simp [Except.toOption]
  · simp [Except.toOption]

theorem work_stepKeys (h : half.stepKeys = some next) : next.work < half.work := by
  rw [stepKeys] at h
  split at h
  · contradiction
  · rename_i event rest hevents
    injection h with h
    subst h
    simp only [work, hevents, List.length_cons]
    split
    · rename_i tag _
      have := length_reports_emit tag half.eventSource
      omega
    · omega

theorem work_signalOutcome (outcome : Except RunFault Outcome)
    (half : Half capacity rows cols) : (half.signalOutcome outcome).work ≤ half.work + 3 := by
  unfold signalOutcome
  split
  · have := Bool.toNat_le half.screenChanged
    simp only [work, Bool.toNat_true]
    omega
  · have := Bool.toNat_le half.relayPending
    simp only [work, Bool.toNat_true]
    omega
  · omega

theorem work_runFrame {frame : Frame} (htask : half.hostTask = .holding frame) :
    (half.runFrame frame).work < half.work := by
  rw [runFrame]
  refine Nat.lt_of_le_of_lt (work_signalOutcome _ _) ?_
  have := HostTask.work_replying ((half.station.run frame).station.answer?
    (half.station.run frame).response) frame
  simp only [work, htask]
  omega

theorem work_listen (htask : half.hostTask = .listening) (h : half.listen = some next) :
    next.work < half.work := by
  rw [listen] at h
  split at h
  · rename_i hreads
    split at h <;>
    · injection h with h
      subst h
      simp only [work, htask, hreads, HostTask.work, List.length_cons]
      omega
  · rename_i hreads
    injection h with h
    subst h
    simp only [work, hreads, List.length_cons]
    omega
  · split at h
    · contradiction
    · rename_i hreports
      injection h with h
      subst h
      simp only [work, htask, hreports, HostTask.work, List.length_cons]
      omega

theorem work_stepHost (h : half.stepHost = some next) : next.work < half.work := by
  rw [stepHost] at h
  split at h
  · contradiction
  · split at h
    · rename_i htask
      exact work_listen htask h
    · rename_i htask
      injection h with h
      exact h ▸ work_runFrame htask
    · rename_i htask
      obtain ⟨toHost, -, rfl⟩ := Option.map_eq_some_iff.mp h
      simp only [work, htask, HostTask.work]
      omega

theorem work_stepSender (h : half.stepSender = some next) : next.work < half.work := by
  rw [stepSender] at h
  split at h
  · contradiction
  · split at h
    · rename_i htask
      split at h
      · rename_i hpending
        injection h with h
        subst h
        simp only [work, htask, hpending, LinkTask.work, Bool.toNat_true, Bool.toNat_false]
        omega
      · contradiction
    · rename_i htask
      injection h with h
      subst h
      have := LinkTask.work_sending (Link.takeOutgoing half.station).2
      simp only [work, htask]
      omega
    · rename_i packet htask
      obtain ⟨toLink, -, rfl⟩ := Option.map_eq_some_iff.mp h
      simp only [work, htask, LinkTask.work]
      omega

theorem work_receiveByte (byte : UInt8) (half : Half capacity rows cols) :
    (half.receiveByte byte).work ≤ half.work + 1 := by
  rw [receiveByte]
  have := Bool.toNat_le half.screenChanged
  simp only
  split
  · simp only [work, Bool.toNat_true]
    omega
  · simp only [work]
    omega

theorem work_stepReceiver (h : half.stepReceiver = some next) : next.work < half.work := by
  rw [stepReceiver] at h
  split at h
  · contradiction
  · split at h
    · contradiction
    · rename_i byte rest fromLink hreads
      injection h with h
      subst h
      refine Nat.lt_of_le_of_lt (work_receiveByte _ _) ?_
      simp only [work, hreads, List.foldr_cons, Arriving.work, List.length_cons]
      omega
    · rename_i fromLink hreads
      injection h with h
      subst h
      simp only [work, hreads, List.foldr_cons, Arriving.work, List.length_nil]
      omega
    · rename_i fromLink hreads
      injection h with h
      subst h
      simp only [work, hreads, List.foldr_cons, Arriving.work]
      omega

theorem work_redraw (shown : Screen.CharGrid capacity) (half : Half capacity rows cols) :
    (half.redraw shown).work = half.work := by
  rw [redraw]
  split <;> rfl

theorem work_stepPanel (h : half.stepPanel = some next) : next.work < half.work := by
  rw [stepPanel] at h
  split at h
  · contradiction
  · split at h
    · rename_i hdue
      injection h with h
      subst h
      rw [work_redraw]
      simp only [work, hdue, Bool.toNat_true, Bool.toNat_false]
      omega
    · split at h
      · rename_i hchanged
        injection h with h
        subst h
        rw [work_redraw]
        simp only [work, hchanged, Bool.toNat_true, Bool.toNat_false]
        omega
      · contradiction

/-- Every step leaves less to do. -/
theorem work_step {task : Task} (h : half.step task = some next) : next.work < half.work := by
  cases task with
  | keys => exact work_stepKeys h
  | host => exact work_stepHost h
  | sender => exact work_stepSender h
  | receiver => exact work_stepReceiver h
  | panel => exact work_stepPanel h

end Half

end SplitPanel

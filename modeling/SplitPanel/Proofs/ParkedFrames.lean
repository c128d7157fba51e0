import SplitPanel.Proofs.Responses
import SplitPanel.Proofs.StationTurns

/-!
# Parked frames

Whenever nobody has the station, a parked frame is sure to be found: its signal is set, or the task
that sends it has been woken and has not looked yet.  That task takes the signal before it takes the
station, and frames may be parked in between and while a packet is written.  Either it then finds
the newer frame in place of the one it was woken for, or the signal is set once more.
-/

namespace SplitPanel

open Link (Note accepted transmitted kept)

variable {capacity rows cols : ℕ}

/-- Only a frame that is parked changes the outbox. -/
theorem Station.outbox_run_cases (station : Station capacity) (frame : Frame) :
    (station.run frame).station.outbox = station.outbox ∨
      ∃ overwritten, (station.run frame).outcome = .ok (.relayed overwritten) ∧
        (station.run frame).station.outbox.pending = true := by
  rcases houtcome : (station.run frame).outcome with fault | ⟨command⟩ | ⟨overwritten⟩
  · rw [station_run_of_fault houtcome]
    exact .inl rfl
  · obtain ⟨screen, -, hstation⟩ := station_run_of_applied houtcome
    rw [hstation]
    exact .inl rfl
  · rw [station_run_of_relayed houtcome]
    exact .inr ⟨overwritten, rfl, rfl⟩

theorem Station.pending_run {station : Station capacity} (hpending : station.outbox.pending = true)
    (frame : Frame) : (station.run frame).station.outbox.pending = true := by
  rcases station.outbox_run_cases frame with hsame | ⟨-, -, hparked⟩
  · rw [hsame, hpending]
  · exact hparked

/-- Of the frames that are answered with success, those that name the screen of the other half were
parked. -/
theorem Station.relayed_of_success {station : Station capacity} (hrole : station.role = .master)
    {frame answer : Frame}
    (hanswer : (station.run frame).station.answer? (station.run frame).response = some answer)
    (hsuccess : answer.verdictByte = Verdict.success.toByte)
    (hscreen : answer.screenByte = Side.slave.toByte) :
    ∃ overwritten, (station.run frame).outcome = .ok (.relayed overwritten) := by
  have hserved := (station.serve_snd frame).symm.trans hanswer
  split at hserved
  · next hanswered =>
    cases hserved
    have hheader := @header_response_run _ station frame hanswered.2
    simp only [List.cons.injEq, and_true] at hheader
    obtain ⟨hverdict, -, -, hnamed⟩ := hheader
    rw [hverdict] at hsuccess
    rw [hnamed] at hscreen
    obtain ⟨outcome, houtcome⟩ :=
      Verdict.ofExcept_eq_success_iff.mp (Verdict.toByte_eq_zero_iff.mp hsuccess)
    cases outcome with
    | relayed overwritten => exact ⟨overwritten, houtcome⟩
    | applied command =>
        obtain ⟨⟨-, hmaster | ⟨hslave, -⟩⟩, -⟩ :=
          (outcome_eq_applied_iff station frame command).mp houtcome
        · rw [hscreen] at hmaster
          exact absurd hmaster (by decide)
        · rw [hrole] at hslave
          contradiction
  · contradiction

namespace Half

variable {half : Half capacity rows cols}

theorem make_eq_ok {config : Board.Config} {keymap : Keys.Keymap rows cols} {role : Side}
    {panelStarts : Bool} {half : Half config.geometry.cells rows cols}
    (hmake : make config keymap role panelStarts = .ok half) :
    half.station.role = role ∧ half.station.outbox = .empty ∧ half.linkTask = .waiting ∧
      half.toLink = .ready := by
  rw [make] at hmake
  cases hstation : (Station.make role config.geometry :
      Except _ (Station config.geometry.cells)) with
  | error fault =>
      rw [hstation] at hmake
      contradiction
  | ok station =>
      obtain ⟨hrole, houtbox⟩ := Station.make_eq_ok hstation
      rw [hstation] at hmake
      cases hmake
      exact ⟨hrole, houtbox, rfl, rfl⟩

theorem stepSender_of_waiting (hrole : half.station.role = .master)
    (htask : half.linkTask = .waiting) :
    half.stepSender =
      if half.relayPending then some { half with relayPending := false, linkTask := .woken }
      else none := by
  simp [stepSender, hrole, htask]

theorem stepSender_of_writing (hrole : half.station.role = .master) {packet : List UInt8}
    (htask : half.linkTask = .writing packet) :
    half.stepSender =
      if half.toLink.stalled then none
      else some { half with toLink := half.toLink.put packet, linkTask := .waiting } := by
  have hmaster : half.station.role ≠ .slave := by simp [hrole]
  rw [stepSender, if_neg hmaster, htask]
  simp only [Outlet.write?]
  split <;> rfl

end Half

/-! ## What every part of a step keeps -/

namespace LockedHalf

/-- How a half stands after the given notes. -/
structure Watched (notes : List Note) (locked : LockedHalf capacity rows cols) : Prop where
  role_eq : locked.half.station.role = .master
  /-- A frame that is parked without a signal was parked just now. -/
  awake : locked.half.station.outbox.pending = true →
    locked.half.relayPending = true ∨ locked.half.linkTask = .woken ∨
      ∃ frame execution overwritten, locked.holder = .ran frame execution ∧
        execution.outcome = .ok (.relayed overwritten)
  woken : locked.holder = .sender ∨ (∃ packet?, locked.holder = .took packet?) →
    locked.half.linkTask = .woken
  emptied : ∀ packet?, locked.holder = .took packet? →
    locked.half.station.outbox.pending = false
  kept_eq : transmitted notes ++ locked.half.station.outbox.take.2.toList =
    kept (accepted notes)
  packet_eq : ∀ packet,
    locked.half.linkTask = .writing packet ∨ locked.holder = .took (some packet) →
      ∃ message, (transmitted notes).getLast? = some message ∧
        packet = (Link.relayPacket message).encode
  execution_eq : ∀ frame execution,
    locked.holder = .ran frame execution ∨ locked.holder = .signalled frame execution →
      locked.half.station = execution.station ∧
        ∃ station : Station capacity, station.role = .master ∧ execution = station.run frame

variable {notes : List Note} {locked : LockedHalf capacity rows cols}

theorem transmitted_nothing (notes : List Note) :
    transmitted (notes ++ [.nothing]) = transmitted notes := by
  simp [transmitted]

theorem accepted_nothing (notes : List Note) : accepted (notes ++ [.nothing]) = accepted notes := by
  simp [accepted]

namespace Watched

theorem nothing (hwatched : Watched notes locked) : Watched (notes ++ [.nothing]) locked where
  role_eq := hwatched.role_eq
  awake := hwatched.awake
  woken := hwatched.woken
  emptied := hwatched.emptied
  kept_eq := by
    rw [transmitted_nothing, accepted_nothing]
    exact hwatched.kept_eq
  packet_eq := by
    rw [transmitted_nothing]
    exact hwatched.packet_eq
  execution_eq := hwatched.execution_eq

/-- A step that leaves the outbox alone keeps everything. -/
theorem same (hwatched : Watched notes locked) {next : Half capacity rows cols}
    (hsame : next.SameParking locked.half) : Watched notes { locked with half := next } := by
  obtain ⟨hstation, hsignal, htask, -, -⟩ := hsame
  constructor <;> simp only [hstation, hsignal, htask]
  · exact hwatched.role_eq
  · exact hwatched.awake
  · exact hwatched.woken
  · exact hwatched.emptied
  · exact hwatched.kept_eq
  · exact hwatched.packet_eq
  · exact hwatched.execution_eq

/-- That the next packet will be lost changes nothing yet. -/
theorem linkWriteFails (hwatched : Watched notes locked) :
    Watched notes { locked with half := locked.half.receive .linkWriteFails } where
  role_eq := hwatched.role_eq
  awake := hwatched.awake
  woken := hwatched.woken
  emptied := hwatched.emptied
  kept_eq := hwatched.kept_eq
  packet_eq := hwatched.packet_eq
  execution_eq := hwatched.execution_eq

/-- A task that takes the station has done nothing with it yet. -/
theorem acquire (hwatched : Watched notes locked) {holder : Holder capacity}
    (htask : (∃ frame, holder = .host frame) ∨
      holder = .sender ∧ locked.half.linkTask = .woken) :
    Watched notes (locked.acquire holder) := by
  rw [LockedHalf.acquire]
  split
  · next hfree =>
    have hawake := hwatched.awake
    have hpacket := hwatched.packet_eq
    rw [hfree] at hawake hpacket
    rcases htask with ⟨frame, rfl⟩ | ⟨rfl, hwoken⟩
    · exact {
        role_eq := hwatched.role_eq
        awake := by simpa using hawake
        woken := by simp
        emptied := by simp
        kept_eq := hwatched.kept_eq
        packet_eq := by simpa using hpacket
        execution_eq := by simp }
    · exact {
        role_eq := hwatched.role_eq
        awake := by simpa using hawake
        woken := fun _ => hwoken
        emptied := by simp
        kept_eq := hwatched.kept_eq
        packet_eq := by simpa using hpacket
        execution_eq := by simp }
  · exact hwatched

/-- A frame of the host that is for the other half is parked, and its signal is still to be set. -/
theorem executed (hwatched : Watched notes locked) {frame : Frame}
    (hholder : locked.holder = .host frame) :
    Watched (notes ++ [.executed (Report.ofBytes frame.bytes)
        (locked.half.station.run frame).outcome])
      { half := { locked.half with station := (locked.half.station.run frame).station }
        holder := .ran frame (locked.half.station.run frame) } where
  role_eq := (Station.role_run ..).trans hwatched.role_eq
  awake := by
    intro hpending
    have hawake := hwatched.awake
    rw [hholder] at hawake
    rcases locked.half.station.outbox_run_cases frame with
      hsame | ⟨overwritten, hrelayed, -⟩
    · rw [hsame] at hpending
      exact (hawake hpending).imp_right (Or.imp_right (by simp))
    · exact .inr (.inr ⟨frame, _, overwritten, rfl, hrelayed⟩)
  woken := by simp
  emptied := by simp
  kept_eq := Link.kept_execute hwatched.kept_eq frame
  packet_eq := by
    have hpacket := hwatched.packet_eq
    simpa [transmitted, hholder] using hpacket
  execution_eq := by
    rintro _ _ (⟨⟨⟩⟩ | ⟨⟨⟩⟩)
    exact ⟨rfl, locked.half.station, hwatched.role_eq, rfl⟩

/-- The signal for a frame that was parked is set while the station is not free. -/
theorem signalled (hwatched : Watched notes locked) {frame : Frame}
    {execution : Execution capacity} (hholder : locked.holder = .ran frame execution) :
    Watched notes
      { half := locked.half.signalOutcome execution.outcome
        holder := .signalled frame execution } := by
  have hawake := hwatched.awake
  have hpacket := hwatched.packet_eq
  have hexecution := hwatched.execution_eq frame execution (.inl hholder)
  have hstation := Half.station_signalOutcome execution.outcome locked.half
  have htask := Half.linkTask_signalOutcome execution.outcome locked.half
  rw [hholder] at hawake hpacket
  constructor <;> simp only [hstation, htask]
  case role_eq => exact hwatched.role_eq
  case awake =>
    intro hpending
    rcases hawake hpending with hsignal | hwoken | ⟨_, _, overwritten, hsame, hrelayed⟩
    · exact .inl (Half.relayPending_signalOutcome hsignal)
    · exact .inr (.inl hwoken)
    · cases hsame
      rw [hrelayed]
      exact .inl rfl
  case woken => simp
  case emptied => simp
  case kept_eq => exact hwatched.kept_eq
  case packet_eq => simpa using hpacket
  case execution_eq =>
    rintro _ _ (⟨⟨⟩⟩ | ⟨⟨⟩⟩)
    exact hexecution

theorem answered (hwatched : Watched notes locked) {frame : Frame}
    {execution : Execution capacity} (hholder : locked.holder = .signalled frame execution)
    (response : Option Frame) :
    Watched notes (free { locked.half with hostTask := .replying response }) where
  role_eq := hwatched.role_eq
  awake := by
    have hawake := hwatched.awake
    rw [hholder] at hawake
    simpa [free] using hawake
  woken := by simp [free]
  emptied := by simp [free]
  kept_eq := hwatched.kept_eq
  packet_eq := by
    have hpacket := hwatched.packet_eq
    rw [hholder] at hpacket
    simpa [free] using hpacket
  execution_eq := by simp [free]

/-- What is parked is taken, and the packet for it is the next to be written. -/
theorem taken (hwatched : Watched notes locked) (hholder : locked.holder = .sender)
    (hpending : locked.half.station.outbox.pending = true) :
    Watched (notes ++ [.transmitted locked.half.station.outbox.message])
      { half := { locked.half with
          station := { locked.half.station with
            outbox := locked.half.station.outbox.markSent } }
        holder := .took (some (Link.relayPacket locked.half.station.outbox.message).encode) } where
  role_eq := hwatched.role_eq
  awake := by simp [Outbox.markSent]
  woken _ := hwatched.woken (.inl hholder)
  emptied _ _ := rfl
  kept_eq := Link.kept_transmit hwatched.kept_eq hpending
  packet_eq := by
    have hwoken := hwatched.woken (.inl hholder)
    rintro packet (hwriting | ⟨⟨⟩⟩)
    · rw [hwoken] at hwriting
      contradiction
    · exact ⟨locked.half.station.outbox.message, by simp [transmitted], rfl⟩
  execution_eq := by simp

/-- When nothing is parked, nothing is taken. -/
theorem taken_nothing (hwatched : Watched notes locked) (hholder : locked.holder = .sender)
    (hempty : locked.half.station.outbox.pending = false) :
    Watched notes
      { half := { locked.half with
          station := { locked.half.station with
            outbox := locked.half.station.outbox.markSent } }
        holder := .took none } where
  role_eq := hwatched.role_eq
  awake := by simp [Outbox.markSent]
  woken _ := hwatched.woken (.inl hholder)
  emptied _ _ := rfl
  kept_eq := by
    have hkept := hwatched.kept_eq
    simpa [Outbox.take, Outbox.markSent, hempty] using hkept
  packet_eq := by
    have hwoken := hwatched.woken (.inl hholder)
    simp [hwoken]
  execution_eq := by simp

theorem sending (hwatched : Watched notes locked) {packet? : Option (List UInt8)}
    (hholder : locked.holder = .took packet?) :
    Watched notes (free { locked.half with linkTask := .sending packet? }) where
  role_eq := hwatched.role_eq
  awake hpending := by
    have hempty := hwatched.emptied packet? hholder
    rw [show locked.half.station.outbox.pending = true from hpending] at hempty
    contradiction
  woken := by simp [free]
  emptied := by simp [free]
  kept_eq := hwatched.kept_eq
  packet_eq := by
    have hpacket := hwatched.packet_eq
    rw [hholder] at hpacket
    cases packet? with
    | none => simp [free, LinkTask.sending]
    | some packet =>
        rintro other (⟨⟨⟩⟩ | ⟨⟨⟩⟩)
        exact hpacket packet (.inr rfl)
  execution_eq := by simp [free]

/-- The task that sends takes the signal, or it writes a packet and waits for the next signal. -/
theorem stepSender_of_not_woken (hwatched : Watched notes locked)
    (hsleeping : locked.half.linkTask ≠ .woken) {next : Half capacity rows cols}
    (hstep : locked.half.stepSender = some next) :
    Watched notes { locked with half := next } := by
  rw [Half.stepSender] at hstep
  split at hstep
  · contradiction
  · split at hstep
    · next hwaiting =>
      split at hstep
      · cases hstep
        exact {
          role_eq := hwatched.role_eq
          awake := fun _ => .inr (.inl rfl)
          woken := fun _ => rfl
          emptied := hwatched.emptied
          kept_eq := hwatched.kept_eq
          packet_eq := by
            rintro packet (⟨⟨⟩⟩ | htook)
            exact hwatched.packet_eq packet (.inr htook)
          execution_eq := hwatched.execution_eq }
      · contradiction
    · next hwoken => exact absurd hwoken hsleeping
    · next packet hwriting =>
      obtain ⟨toLink, -, rfl⟩ := Option.map_eq_some_iff.mp hstep
      have hawake := hwatched.awake
      have hwoken := hwatched.woken
      rw [hwriting] at hawake hwoken
      exact {
        role_eq := hwatched.role_eq
        awake := by simpa using hawake
        woken := by simpa using hwoken
        emptied := hwatched.emptied
        kept_eq := hwatched.kept_eq
        packet_eq := by
          rintro packet (⟨⟨⟩⟩ | htook)
          exact hwatched.packet_eq packet (.inr htook)
        execution_eq := hwatched.execution_eq }

theorem stepHost (hwatched : Watched notes locked) :
    Watched (notes ++ [locked.stepHost.2]) locked.stepHost.1 := by
  fun_cases LockedHalf.stepHost locked with
  | case1 frame hholder => exact hwatched.executed hholder
  | case2 frame execution hholder => exact (hwatched.signalled hholder).nothing
  | case3 frame execution hholder => exact (hwatched.answered hholder _).nothing
  | case4 frame hholding => exact (hwatched.acquire (.inl ⟨frame, rfl⟩)).nothing
  | case5 _ _ _ hidle =>
      exact (hwatched.same (Half.sameParking_getD_stepHost hidle)).nothing

theorem stepSender (hwatched : Watched notes locked) :
    Watched (notes ++ [locked.stepSender.2]) locked.stepSender.1 := by
  fun_cases LockedHalf.stepSender locked with
  | case1 hholder station packet? htaken =>
      cases hpending : locked.half.station.outbox.pending with
      | true =>
          have htake := Link.takeOutgoing_of_pending hpending
          rw [htaken] at htake
          cases htake
          exact hwatched.taken hholder hpending
      | false =>
          have htake := Link.takeOutgoing_of_not_pending hpending
          rw [htaken] at htake
          cases htake
          exact (hwatched.taken_nothing hholder hpending).nothing
  | case2 packet? hholder => exact (hwatched.sending hholder).nothing
  | case3 hwoken => exact (hwatched.acquire (.inr ⟨rfl, hwoken⟩)).nothing
  | case4 _ _ hsleeping =>
      cases hstep : locked.half.stepSender with
      | none => exact hwatched.nothing
      | some next => exact (hwatched.stepSender_of_not_woken hsleeping hstep).nothing

theorem step (hwatched : Watched notes locked) (turn : Turn rows) :
    Watched (notes ++ [(locked.step turn).2]) (locked.step turn).1 := by
  rcases step_cases hwatched.role_eq turn with rfl | rfl | rfl | ⟨-, next, hsame, hstep⟩
  · exact hwatched.stepHost
  · exact hwatched.stepSender
  · exact hwatched.linkWriteFails.nothing
  · rw [hstep]
    exact (hwatched.same hsame).nothing

theorem run (hwatched : Watched notes locked) (turns : List (Turn rows)) :
    Watched (notes ++ (locked.run turns).2) (locked.run turns).1 := by
  induction turns generalizing notes locked with
  | nil =>
      rw [LockedHalf.run, List.append_nil]
      exact hwatched
  | cons turn rest ih =>
      have hrest := ih (hwatched.step turn)
      rw [List.append_assoc] at hrest
      exact hrest

end Watched

theorem watched_make {config : Board.Config} {keymap : Keys.Keymap rows cols} {panelStarts : Bool}
    {half : Half config.geometry.cells rows cols}
    (hmake : Half.make config keymap .master panelStarts = .ok half) :
    Watched [] (free half) := by
  obtain ⟨hrole, houtbox, htask, -⟩ := Half.make_eq_ok hmake
  exact {
    role_eq := hrole
    awake := by simp [free, houtbox, Outbox.empty]
    woken := by simp [free]
    emptied := by simp [free]
    kept_eq := by simp [free, houtbox, Outbox.empty, Outbox.take, transmitted, accepted, kept]
    packet_eq := by simp [free, htask]
    execution_eq := by simp [free] }

end LockedHalf

end SplitPanel

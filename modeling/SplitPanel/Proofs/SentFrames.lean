import SplitPanel.Half.Shipped
import SplitPanel.Proofs.ParkedFrames

/-!
# Sent frames

A parked frame comes closer to the link whenever the task that sends can make use of its turn, and
nothing else takes it away, so it is sent unless the next one takes its place.  What is sent reaches
the link in order.  All this holds for turns in any order; the half takes its steps in one of these
orders, and goes on until only the link keeps a frame from being sent.
-/

namespace SplitPanel

open Link (Note accepted transmitted kept)

variable {capacity rows cols : ℕ}

/-- How many turns it takes the task that sends to get hold of the station and look. -/
def LinkTask.distance : LinkTask → ℕ
  | .woken => 2
  | .waiting => 3
  | .writing _ => 4

/-- The packet that is being written. -/
def LinkTask.packets : LinkTask → List (List UInt8)
  | .writing packet => [packet]
  | _ => []

/-- The packet that is about to be written. -/
def Holder.packets : Holder capacity → List (List UInt8)
  | .took packet? => packet?.toList
  | _ => []

namespace LockedHalf

variable {notes : List Note} {locked : LockedHalf capacity rows cols}

/-! ## The way to the link -/

/-- Whether the task that sends may have to wait: for the station, for the task of the host to set
the signal, or for the link. -/
def senderHeldUp (locked : LockedHalf capacity rows cols) : Bool :=
  match locked.holder, locked.half.linkTask with
  | .host _, _ | .ran _ _, _ | .signalled _ _, _ => true
  | _, .writing _ => locked.half.toLink.stalled
  | _, _ => false

theorem senderHeldUp_of_stalled {packet : List UInt8}
    (htask : locked.half.linkTask = .writing packet)
    (hstalled : locked.half.toLink.stalled = true) : locked.senderHeldUp = true := by
  rw [senderHeldUp.eq_def, htask]
  cases locked.holder <;> simp [hstalled]

/-- Whether a turn is one of the task that sends that it can make use of. -/
def isChance (turn : Turn rows) (locked : LockedHalf capacity rows cols) : Bool :=
  match turn with
  | .task .sender => !locked.senderHeldUp
  | _ => false

theorem isChance_of_ne {turn : Turn rows} (hturn : turn ≠ .task .sender) :
    locked.isChance turn = false := by
  rw [isChance]
  exact hturn

/-- The chances that the task that sends has in the course of some turns. -/
def chances : List (Turn rows) → LockedHalf capacity rows cols → ℕ
  | [], _ => 0
  | turn :: rest, locked => (locked.isChance turn).toNat + chances rest (locked.step turn).1

/-- How many chances it takes to send what is parked. -/
def distance (locked : LockedHalf capacity rows cols) : ℕ :=
  match locked.holder with
  | .sender => 1
  | _ => locked.half.linkTask.distance

theorem distance_of_not_sender (hholder : locked.holder ≠ .sender) :
    locked.distance = locked.half.linkTask.distance := by
  rw [distance]
  split
  · contradiction
  · rfl

theorem distance_pos (locked : LockedHalf capacity rows cols) : 0 < locked.distance := by
  rw [distance]
  split
  · omega
  · cases locked.half.linkTask <;> simp [LinkTask.distance]

theorem distance_le (locked : LockedHalf capacity rows cols) : locked.distance ≤ 4 := by
  rw [distance]
  split
  · omega
  · cases locked.half.linkTask <;> simp [LinkTask.distance]

/-- A parked frame is still there, and closer to the link by some chances that were used. -/
def Closer (used : ℕ) (next locked : LockedHalf capacity rows cols) : Prop :=
  next.half.station.outbox.pending = true ∧ next.distance + used ≤ locked.distance

section

variable (hpending : locked.half.station.outbox.pending = true)
include hpending

theorem closer_self : Closer 0 locked locked :=
  ⟨hpending, le_rfl⟩

theorem closer_same {next : Half capacity rows cols} (hsame : next.SameParking locked.half) :
    Closer 0 { locked with half := next } locked := by
  constructor
  · rw [hsame.station_eq, hpending]
  · rw [distance, distance, hsame.linkTask_eq]
    exact le_rfl

theorem closer_acquire_host (frame : Frame) :
    Closer 0 (locked.acquire (.host frame)) locked := by
  rw [acquire]
  split
  · next hfree =>
    refine ⟨hpending, ?_⟩
    rw [distance, distance, hfree]
    exact le_rfl
  · exact closer_self hpending

/-- The task of the host never takes a parked frame away. -/
theorem closer_stepHost : Closer 0 locked.stepHost.1 locked := by
  fun_cases LockedHalf.stepHost locked with
  | case1 frame hholder =>
      refine ⟨Station.pending_run hpending frame, ?_⟩
      rw [distance, distance, hholder]
      exact le_rfl
  | case2 frame execution hholder =>
      constructor
      · rw [Half.station_signalOutcome, hpending]
      · rw [distance, distance, hholder, Half.linkTask_signalOutcome]
        exact le_rfl
  | case3 frame execution hholder =>
      refine ⟨hpending, ?_⟩
      rw [distance, distance, hholder]
      exact le_rfl
  | case4 frame => exact closer_acquire_host hpending frame
  | case5 _ _ _ hidle =>
      exact closer_same hpending (Half.sameParking_getD_stepHost hidle)

/-- The task that sends takes the parked frame, or uses its chance to come closer to it. -/
theorem Watched.closer_stepSender (hwatched : Watched notes locked) :
    (∃ message, locked.stepSender.2 = .transmitted message) ∨
      Closer (!locked.senderHeldUp).toNat locked.stepSender.1 locked := by
  fun_cases LockedHalf.stepSender locked with
  | case1 hholder station packet? htaken =>
      rw [Link.takeOutgoing_of_pending hpending] at htaken
      cases htaken
      exact .inl ⟨_, rfl⟩
  | case2 packet? hholder =>
      rw [hwatched.emptied packet? hholder] at hpending
      contradiction
  | case3 hwoken hsender htook =>
      right
      cases hholder : locked.holder with
      | nobody =>
          rw [LockedHalf.acquire, hholder]
          refine ⟨hpending, ?_⟩
          rw [distance, distance, senderHeldUp, hholder, hwoken]
          exact le_rfl
      | sender => exact absurd hholder hsender
      | took packet? => exact absurd hholder (htook packet?)
      | host | ran | signalled =>
          rw [LockedHalf.acquire, hholder, senderHeldUp, hholder]
          exact closer_self hpending
  | case4 hsender htook hsleeping =>
      right
      cases htask : locked.half.linkTask with
      | woken => exact absurd htask hsleeping
      | waiting =>
          rw [Half.stepSender_of_waiting hwatched.role_eq htask]
          split
          · have hnext : (locked.proceed (some { locked.half with
                relayPending := false, linkTask := .woken })).distance = LinkTask.woken.distance :=
              distance_of_not_sender hsender
            refine ⟨hpending, ?_⟩
            rw [hnext, distance_of_not_sender hsender, htask]
            exact Nat.add_le_add_left (Bool.toNat_le _) 2
          · next hsilent =>
            rcases hwatched.awake hpending with hsignal | hwoken | ⟨frame, execution, -, hran, -⟩
            · contradiction
            · rw [htask] at hwoken
              contradiction
            · rw [senderHeldUp, hran]
              exact closer_self hpending
      | writing packet =>
          rw [Half.stepSender_of_writing hwatched.role_eq htask]
          split
          · next hstalled =>
            rw [senderHeldUp_of_stalled htask hstalled]
            exact closer_self hpending
          · have hnext : (locked.proceed (some { locked.half with
                toLink := locked.half.toLink.put packet
                linkTask := .waiting })).distance = LinkTask.waiting.distance :=
              distance_of_not_sender hsender
            refine ⟨hpending, ?_⟩
            rw [hnext, distance_of_not_sender hsender, htask]
            exact Nat.add_le_add_left (Bool.toNat_le _) 3

/-- Every turn takes the parked frame or keeps it, and a chance that is not used to take it is used
to come closer to it. -/
theorem Watched.closer_step (hwatched : Watched notes locked) (turn : Turn rows) :
    (∃ message, (locked.step turn).2 = .transmitted message) ∨
      Closer (locked.isChance turn).toNat (locked.step turn).1 locked := by
  rcases step_cases hwatched.role_eq turn with rfl | rfl | rfl | ⟨hturn, next, hsame, hstep⟩
  · exact .inr (closer_stepHost hpending)
  · exact hwatched.closer_stepSender hpending
  · exact .inr ⟨hpending, le_rfl⟩
  · rw [hstep, isChance_of_ne hturn]
    exact .inr (closer_same hpending hsame)

end

theorem transmitted_cons {note : Note} (hnote : ∀ message, note ≠ .transmitted message)
    (notes : List Note) : transmitted (note :: notes) = transmitted notes := by
  cases note with
  | transmitted message => exact absurd rfl (hnote message)
  | _ => rfl

/-- With enough chances for the task that sends, a parked frame is sent, and the chances after that
are left. -/
theorem Watched.transmits (hwatched : Watched notes locked)
    (hpending : locked.half.station.outbox.pending = true) {turns : List (Turn rows)} {spare : ℕ}
    (hchances : locked.distance + spare ≤ locked.chances turns) :
    ∃ before after message, turns = before ++ after ∧
      transmitted (locked.run before).2 = [message] ∧
      spare ≤ (locked.run before).1.chances after := by
  induction turns generalizing notes locked with
  | nil =>
      have hpos := locked.distance_pos
      rw [chances] at hchances
      omega
  | cons turn rest ih =>
      rw [chances] at hchances
      by_cases hsent : ∃ message, (locked.step turn).2 = .transmitted message
      · obtain ⟨message, hnote⟩ := hsent
        have hpos := locked.distance_pos
        have hchance := Bool.toNat_le (locked.isChance turn)
        refine ⟨[turn], rest, message, rfl, ?_, ?_⟩
        · rw [run_cons, hnote]
          rfl
        · change spare ≤ (locked.step turn).1.chances rest
          omega
      · obtain ⟨hparked, hcloser⟩ := (hwatched.closer_step hpending turn).resolve_left hsent
        obtain ⟨before, after, message, rfl, hmessage, hspare⟩ :=
          ih (hwatched.step turn) hparked (by omega)
        refine ⟨turn :: before, after, message, rfl, ?_, hspare⟩
        rw [run_cons, transmitted_cons (not_exists.mp hsent)]
        exact hmessage

/-- What is sent is the parked frame, unless the next one accepted has taken its place. -/
theorem Watched.eq_or_replaced (hwatched : Watched notes locked)
    (hpending : locked.half.station.outbox.pending = true) {turns : List (Turn rows)}
    {message : Report} (hsent : transmitted (locked.run turns).2 = [message]) :
    message = locked.half.station.outbox.message ∨
      ∃ newer, (accepted (locked.run turns).2).head? = some (newer, true) := by
  by_cases hreplaced : ∃ newer, (accepted (locked.run turns).2).head? = some (newer, true)
  · exact .inr hreplaced
  · have hparked : locked.half.station.outbox.take.2.toList =
        [locked.half.station.outbox.message] := by
      simp [Outbox.take, hpending]
    have hafter := (hwatched.run turns).kept_eq
    rw [Link.accepted_append, Link.kept_append (not_exists.mp hreplaced), ← hwatched.kept_eq,
      hparked, Link.transmitted_append, hsent, List.append_assoc, List.append_assoc,
      List.append_cancel_left_eq, List.singleton_append, List.singleton_append,
      List.cons.injEq] at hafter
    exact .inl hafter.1

/-! ## What is written to the link -/

/-- The packets that were taken and are not written yet. -/
def inHand (locked : LockedHalf capacity rows cols) : List (List UInt8) :=
  locked.half.linkTask.packets ++ locked.holder.packets

/-- As long as no packet is lost, all that were taken are written. -/
structure Wrote (notes : List Note) (locked : LockedHalf capacity rows cols) : Prop where
  failing_eq : locked.half.toLink.failing = false
  packets_eq : locked.half.toLink.written ++ locked.inHand =
    (transmitted notes).map fun message => (Link.relayPacket message).encode

namespace Wrote

theorem nothing (hwrote : Wrote notes locked) : Wrote (notes ++ [.nothing]) locked where
  failing_eq := hwrote.failing_eq
  packets_eq := by
    rw [transmitted_nothing]
    exact hwrote.packets_eq

theorem same (hwrote : Wrote notes locked) {next : Half capacity rows cols}
    (hsame : next.SameParking locked.half) : Wrote notes { locked with half := next } := by
  obtain ⟨-, -, htask, hwritten, hfailing⟩ := hsame
  constructor
  · rw [hfailing]
    exact hwrote.failing_eq
  · rw [inHand, hwritten, htask]
    exact hwrote.packets_eq

theorem acquire (hwrote : Wrote notes locked) {holder : Holder capacity}
    (hholder : holder.packets = []) : Wrote notes (locked.acquire holder) := by
  rw [LockedHalf.acquire]
  split
  · next hfree =>
    refine ⟨hwrote.failing_eq, ?_⟩
    have hpackets := hwrote.packets_eq
    rw [inHand, hfree] at hpackets
    rw [inHand, hholder]
    exact hpackets
  · exact hwrote

/-- The task of the host writes nothing to the link. -/
theorem stepHost (hwrote : Wrote notes locked) :
    Wrote (notes ++ [locked.stepHost.2]) locked.stepHost.1 := by
  have hpackets := hwrote.packets_eq
  rw [inHand] at hpackets
  fun_cases LockedHalf.stepHost locked with
  | case1 frame hholder =>
      rw [hholder] at hpackets
      refine ⟨hwrote.failing_eq, ?_⟩
      rw [Link.transmitted_append]
      simpa [inHand, transmitted, Holder.packets] using hpackets
  | case2 frame execution hholder =>
      rw [hholder] at hpackets
      refine nothing ⟨?_, ?_⟩
      · rw [Half.toLink_signalOutcome]
        exact hwrote.failing_eq
      · rw [inHand, Half.toLink_signalOutcome, Half.linkTask_signalOutcome]
        exact hpackets
  | case3 frame execution hholder =>
      rw [hholder] at hpackets
      exact nothing ⟨hwrote.failing_eq, hpackets⟩
  | case4 frame => exact (hwrote.acquire rfl).nothing
  | case5 _ _ _ hidle =>
      exact (hwrote.same (Half.sameParking_getD_stepHost hidle)).nothing

/-- A packet is written after those before it. -/
theorem stepSender (hwrote : Wrote notes locked) (hwatched : Watched notes locked) :
    Wrote (notes ++ [locked.stepSender.2]) locked.stepSender.1 := by
  have hpackets := hwrote.packets_eq
  rw [inHand] at hpackets
  fun_cases LockedHalf.stepSender locked with
  | case1 hholder station packet? htaken =>
      rw [hholder] at hpackets
      refine ⟨hwrote.failing_eq, ?_⟩
      cases hpending : locked.half.station.outbox.pending with
      | true =>
          rw [Link.takeOutgoing_of_pending hpending] at htaken
          cases htaken
          rw [Link.transmitted_append, List.map_append, ← hpackets]
          simp [inHand, Holder.packets, transmitted]
      | false =>
          rw [Link.takeOutgoing_of_not_pending hpending] at htaken
          cases htaken
          rw [if_neg (by simp), transmitted_nothing]
          exact hpackets
  | case2 packet? hholder =>
      rw [hholder, hwatched.woken (.inr ⟨packet?, hholder⟩)] at hpackets
      refine nothing ⟨hwrote.failing_eq, ?_⟩
      cases packet? <;> exact hpackets
  | case3 hwoken => exact (hwrote.acquire rfl).nothing
  | case4 _ _ hsleeping =>
      refine nothing ?_
      cases htask : locked.half.linkTask with
      | woken => exact absurd htask hsleeping
      | waiting =>
          rw [htask] at hpackets
          rw [Half.stepSender_of_waiting hwatched.role_eq htask]
          split
          · exact ⟨hwrote.failing_eq, hpackets⟩
          · exact hwrote
      | writing packet =>
          rw [htask] at hpackets
          rw [Half.stepSender_of_writing hwatched.role_eq htask]
          split
          · exact hwrote
          · have hput : locked.half.toLink.put packet =
                { locked.half.toLink with written := locked.half.toLink.written ++ [packet] } :=
              if_neg (by simp [hwrote.failing_eq])
            refine ⟨?_, ?_⟩
            · rw [LockedHalf.proceed, Option.getD_some, hput]
              exact hwrote.failing_eq
            · rw [LockedHalf.proceed, Option.getD_some, hput, ← hpackets]
              simp [inHand, LinkTask.packets]

theorem step (hwrote : Wrote notes locked) (hwatched : Watched notes locked) {turn : Turn rows}
    (hlost : turn ≠ .happens .linkWriteFails) :
    Wrote (notes ++ [(locked.step turn).2]) (locked.step turn).1 := by
  rcases step_cases hwatched.role_eq turn with rfl | rfl | rfl | ⟨-, next, hsame, hstep⟩
  · exact hwrote.stepHost
  · exact hwrote.stepSender hwatched
  · contradiction
  · rw [hstep]
    exact (hwrote.same hsame).nothing

theorem run (hwrote : Wrote notes locked) (hwatched : Watched notes locked)
    {turns : List (Turn rows)} (hlost : .happens .linkWriteFails ∉ turns) :
    Wrote (notes ++ (locked.run turns).2) (locked.run turns).1 := by
  induction turns generalizing notes locked with
  | nil =>
      rw [LockedHalf.run, List.append_nil]
      exact hwrote
  | cons turn rest ih =>
      obtain ⟨hfirst, hrest⟩ := not_or.mp (mt List.mem_cons.mpr hlost)
      have hlast := ih (hwrote.step hwatched (Ne.symm hfirst)) (hwatched.step turn) hrest
      rw [List.append_assoc] at hlast
      exact hlast

end Wrote

theorem wrote_make {config : Board.Config} {keymap : Keys.Keymap rows cols} {panelStarts : Bool}
    {half : Half config.geometry.cells rows cols}
    (hmake : Half.make config keymap .master panelStarts = .ok half) :
    Wrote [] (free half) := by
  obtain ⟨-, -, htask, hlink⟩ := Half.make_eq_ok hmake
  constructor
  · rw [free, hlink]
    rfl
  · rw [inHand, free, htask, hlink]
    rfl

/-- How many chances it takes to write what is in hand. -/
def handDistance (locked : LockedHalf capacity rows cols) : ℕ :=
  2 * locked.holder.packets.length + locked.half.linkTask.packets.length

theorem inHand_eq_nil (hempty : locked.handDistance = 0) : locked.inHand = [] := by
  rw [handDistance] at hempty
  rw [inHand, List.append_eq_nil_iff]
  constructor <;> exact List.eq_nil_of_length_eq_zero (by omega)

theorem packets_of_not_took (hholder : ∀ packet?, locked.holder ≠ .took packet?) :
    locked.holder.packets = [] := by
  rw [Holder.packets.eq_def]
  split
  · next packet? htook => exact absurd htook (hholder packet?)
  · rfl

/-- There is never more than one packet in hand. -/
theorem Watched.hand_cases (hwatched : Watched notes locked) :
    locked.inHand.length ≤ 1 ∧ locked.handDistance ≤ 2 := by
  by_cases htook : ∃ packet?, locked.holder = .took packet?
  · have hwoken := hwatched.woken (.inr htook)
    obtain ⟨packet?, hholder⟩ := htook
    rw [inHand, handDistance, hholder, hwoken]
    cases packet? <;> simp [Holder.packets, LinkTask.packets]
  · rw [inHand, handDistance, packets_of_not_took (not_exists.mp htook)]
    cases locked.half.linkTask <;> simp [LinkTask.packets]

theorem handDistance_same {next : Half capacity rows cols} (hsame : next.SameParking locked.half) :
    handDistance { locked with half := next } = locked.handDistance := by
  rw [handDistance, handDistance, hsame.linkTask_eq]

theorem handDistance_acquire {holder : Holder capacity} (hholder : holder.packets = []) :
    (locked.acquire holder).handDistance = locked.handDistance := by
  rw [acquire]
  split
  · next hfree =>
    rw [handDistance, handDistance, hholder, hfree]
    rfl
  · rfl

theorem handDistance_stepHost : locked.stepHost.1.handDistance = locked.handDistance := by
  fun_cases LockedHalf.stepHost locked with
  | case1 frame hholder =>
      rw [handDistance, handDistance, hholder]
      rfl
  | case2 frame execution hholder =>
      rw [handDistance, handDistance, hholder, Half.linkTask_signalOutcome]
      rfl
  | case3 frame execution hholder =>
      rw [handDistance, handDistance, hholder]
      rfl
  | case4 frame => exact handDistance_acquire rfl
  | case5 _ _ _ hidle => exact handDistance_same (Half.sameParking_getD_stepHost hidle)

theorem Watched.handDistance_stepSender (hwatched : Watched notes locked)
    (hnote : ∀ message, locked.stepSender.2 ≠ .transmitted message) :
    locked.stepSender.1.handDistance ≤ locked.handDistance - (!locked.senderHeldUp).toNat := by
  revert hnote
  fun_cases LockedHalf.stepSender locked with
  | case1 hholder station packet? htaken =>
      intro hnote
      cases packet? with
      | none =>
          rw [handDistance, hwatched.woken (.inl hholder)]
          exact Nat.zero_le _
      | some packet => exact absurd rfl (hnote _)
  | case2 packet? hholder =>
      intro hnote
      have hwoken := hwatched.woken (.inr ⟨packet?, hholder⟩)
      have hchance : locked.senderHeldUp = false := by rw [senderHeldUp, hholder, hwoken]
      rw [hchance, handDistance, handDistance, hholder, hwoken]
      cases packet? <;> simp [free, Holder.packets, LinkTask.packets, LinkTask.sending]
  | case3 hwoken hsender htook =>
      intro hnote
      rw [handDistance_acquire rfl, handDistance, packets_of_not_took htook, hwoken]
      exact Nat.zero_le _
  | case4 hsender htook hsleeping =>
      intro hnote
      have hholder := packets_of_not_took htook
      cases htask : locked.half.linkTask with
      | woken => exact absurd htask hsleeping
      | waiting =>
          rw [Half.stepSender_of_waiting hwatched.role_eq htask, handDistance, proceed, hholder]
          split
          · exact Nat.zero_le _
          · rw [Option.getD_none, htask]
            exact Nat.zero_le _
      | writing packet =>
          rw [Half.stepSender_of_writing hwatched.role_eq htask]
          split
          · next hstalled =>
            rw [senderHeldUp_of_stalled htask hstalled]
            exact le_rfl
          · rw [handDistance, proceed, hholder]
            exact Nat.zero_le _

/-- A chance that is not used to take a frame is used to write the one in hand. -/
theorem Watched.handDistance_step (hwatched : Watched notes locked) {turn : Turn rows}
    (hnote : ∀ message, (locked.step turn).2 ≠ .transmitted message) :
    (locked.step turn).1.handDistance ≤ locked.handDistance - (locked.isChance turn).toNat := by
  rcases step_cases hwatched.role_eq turn with rfl | rfl | rfl | ⟨hturn, next, hsame, hstep⟩
  · exact handDistance_stepHost.le
  · exact hwatched.handDistance_stepSender hnote
  · exact le_rfl
  · rw [hstep, isChance_of_ne hturn]
    exact (handDistance_same hsame).le

theorem Watched.empties_hand (hwatched : Watched notes locked) {turns : List (Turn rows)}
    (hchances : locked.handDistance ≤ locked.chances turns)
    (hnone : transmitted (locked.run turns).2 = []) : (locked.run turns).1.inHand = [] := by
  induction turns generalizing notes locked with
  | nil => exact inHand_eq_nil (Nat.le_zero.mp hchances)
  | cons turn rest ih =>
      have hnote : ∀ message, (locked.step turn).2 ≠ .transmitted message := by
        intro message hsent
        rw [run_cons, hsent] at hnone
        contradiction
      rw [run_cons, transmitted_cons hnote] at hnone
      rw [chances] at hchances
      have hstep := hwatched.handDistance_step hnote
      have hnext : (locked.step turn).1.handDistance ≤ (locked.step turn).1.chances rest := by
        omega
      exact ih (hwatched.step turn) hnext hnone

/-- With enough chances for the task that sends, what was in hand is written. -/
theorem Wrote.writes (hwrote : Wrote notes locked) (hwatched : Watched notes locked)
    {turns : List (Turn rows)} (hlost : .happens .linkWriteFails ∉ turns)
    (hchances : locked.handDistance ≤ locked.chances turns) :
    locked.half.toLink.written ++ locked.inHand <+: (locked.run turns).1.half.toLink.written := by
  have hlast := (hwrote.run hwatched hlost).packets_eq
  rw [Link.transmitted_append, List.map_append, ← hwrote.packets_eq] at hlast
  cases hsent : transmitted (locked.run turns).2 with
  | nil =>
      rw [hwatched.empties_hand hchances hsent, hsent, List.map_nil, List.append_nil,
        List.append_nil] at hlast
      exact hlast.symm ▸ List.prefix_rfl
  | cons first rest =>
      -- The last packet may be in hand, so none before it is.
      have hhand := (hwatched.run turns).hand_cases.1
      have hlength := congrArg List.length hlast
      rw [hsent] at hlength
      simp only [List.length_append, List.length_map, List.length_cons] at hlength
      have hshort : (locked.half.toLink.written ++ locked.inHand).length ≤
          (locked.run turns).1.half.toLink.written.length := by
        rw [List.length_append]
        omega
      exact List.prefix_of_prefix_length_le (List.prefix_append _ _)
        (hlast ▸ List.prefix_append _ _) hshort

/-- With enough chances for the task that sends, a packet with the parked frame is written, or with
one that has taken its place. -/
theorem Watched.sends (hwatched : Watched notes locked)
    (hpending : locked.half.station.outbox.pending = true) {turns : List (Turn rows)}
    (hchances : 6 ≤ locked.chances turns) :
    ∃ message, .transmitted message ∈ (locked.run turns).2 ∧
      (message = locked.half.station.outbox.message ∨
        ∃ newer, (accepted (locked.run turns).2).head? = some (newer, true)) ∧
      (Wrote notes locked → .happens .linkWriteFails ∉ turns →
        (Link.relayPacket message).encode ∈ (locked.run turns).1.half.toLink.written) := by
  have henough : locked.distance + 2 ≤ locked.chances turns := by
    have hdistance := locked.distance_le
    omega
  obtain ⟨before, after, message, rfl, hsent, hspare⟩ := hwatched.transmits hpending henough
  rw [run_append]
  refine ⟨message, ?_, ?_, ?_⟩
  · have hmem : message ∈ transmitted (locked.run before).2 := by
      rw [hsent]
      exact List.mem_singleton_self message
    exact List.mem_append_left _ (Link.mem_transmitted.mp hmem)
  · rcases hwatched.eq_or_replaced hpending hsent with hparked | ⟨newer, hnewer⟩
    · exact .inl hparked
    · refine .inr ⟨newer, ?_⟩
      rw [Link.accepted_append, List.head?_append, hnewer]
      rfl
  · intro hwrote hlost
    obtain ⟨hbefore, hafter⟩ := not_or.mp (mt List.mem_append.mpr hlost)
    have hthere := hwatched.run before
    have hwritten := hwrote.run hwatched hbefore
    have hprefix := hwritten.writes hthere hafter (hthere.hand_cases.2.trans hspare)
    have hmem : (Link.relayPacket message).encode ∈
        (locked.run before).1.half.toLink.written ++ (locked.run before).1.inHand := by
      rw [hwritten.packets_eq, Link.transmitted_append, hsent, List.map_append]
      exact List.mem_append_right _ (List.mem_singleton_self _)
    exact hprefix.subset hmem

/-! ## What is answered -/

/-- The frame of the host that is about to be answered, and its answer. -/
def answering? (locked : LockedHalf capacity rows cols) : Option (Frame × Frame) :=
  match locked.holder with
  | .signalled frame execution =>
    (locked.half.station.answer? execution.response).map fun answer => (frame, answer)
  | _ => none

/-- While a frame for the other half is answered with success, it is parked. -/
theorem Watched.outbox_of_answering (hwatched : Watched notes locked) {frame answer : Frame}
    (hanswering : locked.answering? = some (frame, answer))
    (hsuccess : answer.verdictByte = Verdict.success.toByte)
    (hscreen : answer.screenByte = Side.slave.toByte) :
    locked.half.station.outbox = { message := Report.ofBytes frame.bytes, pending := true } := by
  rw [answering?] at hanswering
  split at hanswering
  · next other execution hholder =>
    obtain ⟨reply, hanswer, hpair⟩ := Option.map_eq_some_iff.mp hanswering
    cases hpair
    obtain ⟨hstation, station, hrole, rfl⟩ := hwatched.execution_eq frame execution (.inr hholder)
    rw [hstation] at hanswer ⊢
    obtain ⟨overwritten, hrelayed⟩ := Station.relayed_of_success hrole hanswer hsuccess hscreen
    rw [Station.station_run_of_relayed hrelayed]
  · contradiction

/-- Whatever the tasks of the master half do in whatever order, and whatever happens meanwhile:

* as long as nobody has the station, a parked frame has its signal set, or the task that sends has
  been woken and has not looked yet;
* a frame for the other half that is answered with success is the one that is parked;
* what is parked is sent once the task that sends has had enough chances, unless the next frame that
  is accepted takes its place, and then that one or a later one is sent;
* what was sent and what is parked are the accepted frames without those that were replaced;
* the packet that is being written is the one of the last frame that was sent;
* unless packets get lost, those of all frames that were sent are written. -/
theorem parked_frame_sent_or_replaced {config : Board.Config} {keymap : Keys.Keymap rows cols}
    {panelStarts : Bool} {half : Half config.geometry.cells rows cols}
    (hmake : Half.make config keymap .master panelStarts = .ok half) (turns : List (Turn rows))
    {locked : LockedHalf config.geometry.cells rows cols} {notes : List Note}
    (hrun : (free half).run turns = (locked, notes)) :
    (locked.half.station.outbox.pending = true → locked.holder = .nobody →
      locked.half.relayPending = true ∨ locked.half.linkTask = .woken) ∧
    (∀ frame answer, locked.answering? = some (frame, answer) →
      answer.verdictByte = Verdict.success.toByte → answer.screenByte = Side.slave.toByte →
      locked.half.station.outbox = { message := Report.ofBytes frame.bytes, pending := true }) ∧
    (locked.half.station.outbox.pending = true → ∀ later, 6 ≤ locked.chances later →
      ∃ message, .transmitted message ∈ (locked.run later).2 ∧
        (message = locked.half.station.outbox.message ∨
          ∃ newer, (accepted (locked.run later).2).head? = some (newer, true)) ∧
        (.happens .linkWriteFails ∉ turns ++ later →
          (Link.relayPacket message).encode ∈ (locked.run later).1.half.toLink.written)) ∧
    transmitted notes ++ locked.half.station.outbox.take.2.toList = kept (accepted notes) ∧
    (∀ packet, locked.half.linkTask = .writing packet →
      ∃ message, (transmitted notes).getLast? = some message ∧
        packet = (Link.relayPacket message).encode) ∧
    (.happens .linkWriteFails ∉ turns →
      locked.half.toLink.written ++ locked.inHand =
        (transmitted notes).map fun message => (Link.relayPacket message).encode) := by
  have hmade := watched_make hmake
  have hwatched := hmade.run turns
  rw [hrun, List.nil_append] at hwatched
  have hwrote : .happens .linkWriteFails ∉ turns → Wrote notes locked := by
    intro hlost
    have hthere := (wrote_make hmake).run hmade hlost
    rw [hrun, List.nil_append] at hthere
    exact hthere
  refine ⟨?_, ?_, ?_, hwatched.kept_eq, ?_, fun hlost => (hwrote hlost).packets_eq⟩
  · intro hpending hfree
    rcases hwatched.awake hpending with hsignal | hwoken | ⟨_, _, _, hran, -⟩
    · exact .inl hsignal
    · exact .inr hwoken
    · rw [hfree] at hran
      contradiction
  · intro frame answer hanswering hsuccess hscreen
    exact hwatched.outbox_of_answering hanswering hsuccess hscreen
  · intro hpending later hchances
    obtain ⟨message, hsent, hparked, hwritten⟩ := hwatched.sends hpending hchances
    refine ⟨message, hsent, hparked, ?_⟩
    intro hlost
    obtain ⟨hbefore, hlater⟩ := not_or.mp (mt List.mem_append.mpr hlost)
    exact hwritten (hwrote hbefore) hlater
  · intro packet hwriting
    exact hwatched.packet_eq packet (.inl hwriting)

/-- A second frame is accepted after the task that sends was woken and before it looks. -/
theorem parked_frame_sent_or_replaced_before_look :
    let keymap : Keys.Keymap 1 1 := {
      layers := [#v[#v[.none]]]
      triLayer := none
      momentary := 0
      state := 0
      held := Keys.Grid.replicate 1 1 none }
    let first := [2, 0, 2, 1, 0, 65]
    let second := [2, 0, 2, 1, 0, 66]
    let turns : List (Turn 1) :=
      [.happens (.hostReport first), .happens (.hostReport second)] ++
        List.replicate 6 (.task .host) ++ [.task .sender] ++ List.replicate 2 (.task .host) ++
        [.task .sender] ++ List.replicate 2 (.task .host)
    let later : List (Turn 1) := .task .host :: List.replicate 6 (.task .sender)
    ∃ half : Half Half.Shipped.config.geometry.cells 1 1,
      Half.make Half.Shipped.config keymap .master false = .ok half ∧
      accepted ((free half).run turns).2 =
        [(Report.ofBytes first, false), (Report.ofBytes second, true)] ∧
      ((free half).run turns).1.half.station.outbox =
        { message := Report.ofBytes second, pending := true } ∧
      (Link.relayPacket (Report.ofBytes second)).encode ∈
        (((free half).run turns).1.run later).1.half.toLink.written := by
  intro keymap first second turns later
  have hmake : Half.make Half.Shipped.config keymap .master false = .ok _ := rfl
  refine ⟨_, hmake, by decide, ?_⟩
  obtain ⟨-, hanswered, hsends, -⟩ :=
    parked_frame_sent_or_replaced hmake turns (Prod.eta _).symm
  have hparked := hanswered (.holding second) (.holding [0, 0, 2, 1, 0, 66]) (by decide)
    (by decide) (by decide)
  have hfilled : Report.ofBytes (Frame.holding second).bytes = Report.ofBytes second := by decide
  rw [hfilled] at hparked
  obtain ⟨message, -, hmessage, hwritten⟩ :=
    hsends (congrArg Outbox.pending hparked) later (by decide)
  rw [hparked] at hmessage
  refine ⟨hparked, ?_⟩
  rcases hmessage with rfl | ⟨newer, hnewer⟩
  · exact hwritten (by simp [turns, later])
  · exact absurd (Option.isSome_iff_exists.mpr ⟨_, hnewer⟩) (by decide)

end LockedHalf

/-! ## The half as it runs -/

namespace Half

open LockedHalf

variable {half next last : Half capacity rows cols} {notes : List Note}

theorem Reaches.watched (hreaches : Reaches half next) (hwatched : Watched notes (free half)) :
    ∃ notes, Watched notes (free next) := by
  obtain ⟨turns, hnext⟩ := hreaches
  have hrun := hwatched.run turns
  rw [hnext] at hrun
  exact ⟨_, hrun⟩

theorem Reaches.and_then (hreaches : Reaches half next) (hwatched : Watched notes (free half))
    (hnext : ∀ {notes}, Watched notes (free next) → Reaches next last) : Reaches half last := by
  obtain ⟨_, hthere⟩ := hreaches.watched hwatched
  exact hreaches.trans (hnext hthere)

theorem reaches_settle (hwatched : Watched notes (free half)) : Reaches half half.settle := by
  induction half using settle.induct generalizing notes with
  | case1 half hturn =>
      rw [settle_of_waiting hturn]
      exact .refl half
  | case2 half next hturn ih =>
      rw [settle_of_turn hturn]
      exact (reaches_turn hwatched.role_eq hturn).and_then hwatched ih

theorem reaches_sampleRows (hwatched : Watched notes (free half)) (sampled : List (Fin rows)) :
    Reaches half (sampled.foldl (fun half row => (half.sampleRow row).settle) half) := by
  induction sampled generalizing half notes with
  | nil => exact .refl half
  | cons row rest ih =>
      have hsampled : Reaches half (half.sampleRow row) := .of_step (.sample row) rfl
      exact (hsampled.and_then hwatched reaches_settle).and_then hwatched ih

theorem reaches_passMillisecond (hwatched : Watched notes (free half)) :
    Reaches half half.passMillisecond := by
  rw [passMillisecond_eq_tick]
  have hsampled := reaches_sampleRows hwatched (List.finRange rows)
  generalize (List.finRange rows).foldl _ half = sampled at hsampled
  have hticked : Reaches half sampled.tick := hsampled.trans (.of_step .tick rfl)
  exact hticked.and_then hwatched reaches_settle

theorem reaches_pass (hwatched : Watched notes (free half)) (milliseconds : ℕ) :
    Reaches half (half.pass milliseconds) := by
  induction milliseconds generalizing half notes with
  | zero => exact .refl half
  | succ milliseconds ih => exact (reaches_passMillisecond hwatched).and_then hwatched ih

theorem reaches_receive (hwatched : Watched notes (free half)) (happening : Happening) :
    Reaches half (half.receive happening) := by
  by_cases htime : ∃ milliseconds, happening = .time milliseconds
  · obtain ⟨milliseconds, rfl⟩ := htime
    exact reaches_pass hwatched milliseconds
  · have hturn : ((free half).step (.happens happening)).1 = free (half.receive happening) := by
      cases happening with
      | time milliseconds => exact absurd ⟨milliseconds, rfl⟩ htime
      | _ => rfl
    exact .of_step _ hturn

theorem reaches_take (hwatched : Watched notes (free half)) (happening : Happening) :
    Reaches half (half.take happening) :=
  (reaches_receive hwatched happening).and_then hwatched reaches_settle

/-- Whatever happens to a half, it stands as after some turns. -/
theorem reaches_takes (hwatched : Watched notes (free half)) (happenings : List Happening) :
    Reaches half (happenings.foldl (fun half happening => half.take happening) half) := by
  induction happenings generalizing half notes with
  | nil => exact .refl half
  | cons happening rest ih => exact (reaches_take hwatched happening).and_then hwatched ih

theorem turn_takes (hturn : half.turn = none) (happenings : List Happening) :
    (happenings.foldl (fun half happening => half.take happening) half).turn = none := by
  induction happenings generalizing half with
  | nil => exact hturn
  | cons happening rest ih => exact ih (turn_settle _)

theorem step_of_turn_eq_none (hturn : half.turn = none) (task : Task) : half.step task = none :=
  List.findSome?_eq_none_iff.mp hturn task task.mem_all

/-- Once every task waits, nothing is parked and nothing is in hand unless the link does not take
it. -/
theorem all_sent_of_turn_eq_none (hwatched : Watched notes (free half)) (hturn : half.turn = none)
    (hlink : half.toLink.stalled = false) :
    half.station.outbox.pending = false ∧ half.linkTask = .waiting := by
  have hwaits : half.stepSender = none := step_of_turn_eq_none hturn .sender
  have hrole : half.station.role = .master := hwatched.role_eq
  cases htask : half.linkTask with
  | woken =>
      rw [stepSender, if_neg (by simp [hrole]), htask] at hwaits
      contradiction
  | writing packet =>
      rw [stepSender_of_writing hrole htask, if_neg (by simp [hlink])] at hwaits
      contradiction
  | waiting =>
      refine ⟨?_, rfl⟩
      rw [stepSender_of_waiting hrole htask] at hwaits
      split at hwaits
      · contradiction
      · next hsilent =>
        by_contra hparked
        have hawake := hwatched.awake (Bool.not_eq_false _ ▸ hparked)
        rcases hawake with hsignal | hwoken | ⟨_, _, _, hran, -⟩
        · contradiction
        · rw [show half.linkTask = .woken from hwoken] at htask
          contradiction
        · cases hran

/-- Whatever happens to the master half, once its tasks have done what they can, every frame was
sent unless the link does not take the packet before. -/
theorem all_sent_unless_stalled {config : Board.Config} {keymap : Keys.Keymap rows cols}
    {panelStarts : Bool} {half : Half config.geometry.cells rows cols}
    (hstart : start config keymap .master panelStarts = .ok half) (happenings : List Happening)
    {last : Half config.geometry.cells rows cols}
    (hlast : happenings.foldl (fun half happening => half.take happening) half = last)
    (hlink : last.toLink.stalled = false) :
    last.station.outbox.pending = false ∧ last.linkTask = .waiting := by
  rw [start] at hstart
  cases hmake : make config keymap .master panelStarts with
  | error fault =>
      rw [hmake] at hstart
      contradiction
  | ok made =>
      rw [hmake] at hstart
      cases hstart
      have hmade := watched_make hmake
      obtain ⟨_, hstarted⟩ := (reaches_settle hmade).watched hmade
      obtain ⟨_, hthere⟩ := (reaches_takes hstarted happenings).watched hstarted
      have hturn := turn_takes (turn_settle made) happenings
      rw [hlast] at hthere hturn
      exact all_sent_of_turn_eq_none hthere hturn hlink

end Half

end SplitPanel

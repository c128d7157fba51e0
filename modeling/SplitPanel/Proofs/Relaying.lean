import Mathlib.Data.List.Induction
import Mathlib.Tactic.Ring
import SplitPanel.Link.Carrier
import SplitPanel.Proofs.Execution
import SplitPanel.Proofs.Reception

/-!
# From the master's outbox to the slave's screen

The two halves and the bytes between them, moved in any order: the master half runs a frame of
the host, it writes its parked message to the wire, or the slave half takes the oldest byte from
the wire.  Every move leaves a note.  The notes say which frames the master accepted for the
slave half and which messages the slave half ran, and the main statement is that these agree:
nothing but overwriting ever takes a message away, and nothing adds or reorders any.
-/

namespace SplitPanel.Link

variable {near far : ℕ}

/-- Both halves and the bytes between them. -/
structure Relay (near far : ℕ) where
  master : Station near
  wire : List UInt8
  terminal : Terminal
  slave : Station far

inductive Move where
  /-- The master half runs a frame of the host. -/
  | execute (frame : Frame)
  /-- The master half writes its parked message, if it has one, to the wire. -/
  | transmit
  /-- The slave half takes the oldest byte, if there is one, from the wire. -/
  | receive

/-- What a move did. -/
inductive Note where
  /-- A frame of the host, filled up with zeros, and how it went. -/
  | executed (message : Report) (outcome : Except RunFault Outcome)
  | transmitted (message : Report)
  /-- What a byte led to, and the message in the inbox since then. -/
  | received (arrival : Arrival) (message : Report)
  | nothing

namespace Relay

/-- Nothing is on the wire, and the slave half has received nothing. -/
def start (master : Station near) (slave : Station far) : Relay near far where
  master := master
  wire := []
  terminal := .start
  slave := slave

def step (move : Move) (relay : Relay near far) : Relay near far × Note :=
  match move with
  | .execute frame =>
    let execution := relay.master.run frame
    ({ relay with master := execution.station },
      .executed (Report.ofBytes frame.bytes) execution.outcome)
  | .transmit =>
    match takeOutgoing relay.master with
    | (master, some bytes) =>
      ({ relay with master, wire := relay.wire ++ bytes },
        .transmitted relay.master.outbox.message)
    | (_, none) => (relay, .nothing)
  | .receive =>
    match relay.wire with
    | byte :: wire =>
      let (terminal, slave, arrival) := relay.terminal.feed byte relay.slave
      ({ relay with wire, terminal, slave }, .received arrival terminal.inbox.message)
    | [] => (relay, .nothing)

def run : List Move → Relay near far → Relay near far × List Note
  | [], relay => (relay, [])
  | move :: rest, relay =>
    let (next, note) := relay.step move
    let (last, notes) := run rest next
    (last, note :: notes)

/-- The message parked for the slave half. -/
def parked (relay : Relay near far) : List Report :=
  relay.master.outbox.take.2.toList

end Relay

/-! ## Reading the notes -/

/-- The frames accepted for the slave half, filled up with zeros, each with the answer whether
it took the place of the one before. -/
def accepted (notes : List Note) : List (Report × Bool) :=
  notes.filterMap fun note =>
    match note with
    | .executed message (.ok (.relayed overwritten)) => some (message, overwritten)
    | _ => none

/-- The messages that are not overwritten by the next one. -/
def kept : List (Report × Bool) → List Report
  | [] => []
  | [(message, _)] => [message]
  | (message, _) :: next :: rest =>
    if next.2 then kept (next :: rest) else message :: kept (next :: rest)

/-- The messages written to the wire. -/
def transmitted (notes : List Note) : List Report :=
  notes.filterMap fun note =>
    match note with
    | .transmitted message => some message
    | _ => none

/-- The messages run by the slave half. -/
def delivered (notes : List Note) : List Report :=
  notes.filterMap fun note =>
    match note with
    | .received (.ran _) message => some message
    | _ => none

/-- How many bytes the slave half took from the wire. -/
def bytesTaken (notes : List Note) : ℕ :=
  notes.countP fun note =>
    match note with
    | .received _ _ => true
    | _ => false

/-- The bytes of a packet with a message. -/
abbrev messageSize : ℕ := reportSize + overhead

/-- The bytes that messages become, one packet after the other. -/
def stream (messages : List Report) : List UInt8 :=
  messages.flatMap fun message => (relayPacket message).encode

/-- The messages of which a byte is still on the wire: the packet of a message has left it when
its last byte was taken. -/
def onWire (notes : List Note) : List Report :=
  (transmitted notes).drop (bytesTaken notes / messageSize)

@[simp]
theorem accepted_append (first second : List Note) :
    accepted (first ++ second) = accepted first ++ accepted second :=
  List.filterMap_append

@[simp]
theorem transmitted_append (first second : List Note) :
    transmitted (first ++ second) = transmitted first ++ transmitted second :=
  List.filterMap_append

@[simp]
theorem delivered_append (first second : List Note) :
    delivered (first ++ second) = delivered first ++ delivered second :=
  List.filterMap_append

theorem mem_transmitted {notes : List Note} {message : Report} :
    message ∈ transmitted notes ↔ .transmitted message ∈ notes := by
  rw [transmitted, List.mem_filterMap]
  constructor
  · rintro ⟨note, hmem, hnote⟩
    cases note <;> cases hnote
    exact hmem
  · intro hmem
    exact ⟨_, hmem, rfl⟩

@[simp]
theorem bytesTaken_append (first second : List Note) :
    bytesTaken (first ++ second) = bytesTaken first + bytesTaken second :=
  List.countP_append

theorem kept_ne_nil (entry : Report × Bool) (rest : List (Report × Bool)) :
    kept (entry :: rest) ≠ [] := by
  induction rest generalizing entry with
  | nil => simp [kept]
  | cons next rest ih =>
      rw [kept]
      split
      · exact ih next
      · simp

/-- Without overwriting, what comes later takes nothing away. -/
theorem kept_append {entries later : List (Report × Bool)}
    (hfresh : ∀ message, later.head? ≠ some (message, true)) :
    kept (entries ++ later) = kept entries ++ kept later := by
  induction entries with
  | nil => rfl
  | cons entry entries ih =>
      obtain ⟨message, overwritten⟩ := entry
      cases entries with
      | cons next rest =>
          simp only [List.cons_append, kept] at ih ⊢
          split
          · exact ih
          · rw [ih, List.cons_append]
      | nil =>
          cases later with
          | nil => rfl
          | cons next rest =>
              have hnext : next.2 ≠ true := by
                rintro htrue
                exact hfresh next.1 (by rw [← htrue]; rfl)
              rw [List.singleton_append, kept, kept, if_neg hnext, List.singleton_append]

/-- A message that takes the place of the one before leaves the others as they are. -/
theorem kept_concat (entries : List (Report × Bool)) (message : Report) (overwritten : Bool) :
    kept (entries ++ [(message, overwritten)]) =
      (if overwritten then (kept entries).dropLast else kept entries) ++ [message] := by
  induction entries with
  | nil => cases overwritten <;> rfl
  | cons entry entries ih =>
      cases entries with
      | nil => cases overwritten <;> rfl
      | cons next rest =>
          simp only [List.cons_append, kept] at ih ⊢
          by_cases hnext : next.2
          · simpa [hnext] using ih
          · rw [if_neg hnext, if_neg hnext, ih]
            cases overwritten
            · rfl
            · simp [List.dropLast_cons_of_ne_nil (kept_ne_nil next rest)]

theorem getLast?_kept (entries : List (Report × Bool)) :
    (kept entries).getLast? = (entries.map Prod.fst).getLast? := by
  induction entries using List.reverseRecOn with
  | nil => rfl
  | append_singleton entries entry _ =>
      obtain ⟨message, overwritten⟩ := entry
      rw [kept_concat]
      simp

theorem length_encode_relayPacket (message : Report) :
    (relayPacket message).encode.length = messageSize := by
  simp [relayPacket]

theorem length_stream (messages : List Report) :
    (stream messages).length = messageSize * messages.length := by
  induction messages with
  | nil => rfl
  | cons message rest ih =>
      rw [stream, List.flatMap_cons, List.length_append, length_encode_relayPacket, ← stream, ih,
        List.length_cons]
      ring

theorem stream_append (first second : List Report) :
    stream (first ++ second) = stream first ++ stream second :=
  List.flatMap_append

/-! ## One byte at the slave half -/

theorem Terminal.feed_of_nothing {terminal : Terminal} {byte : UInt8} (slave : Station far)
    (hnothing : (terminal.receiver.feed byte).2 = .ok none) :
    terminal.feed byte slave =
      ({ terminal with receiver := (terminal.receiver.feed byte).1 }, slave, .nothing) := by
  simp only [Terminal.feed, hnothing]

/-- The last byte of a message makes the slave half run it. -/
theorem Terminal.feed_of_message {terminal : Terminal} {byte : UInt8} {slave : Station far}
    (hrole : slave.role = .slave) {message : Report}
    (hmessage : (terminal.receiver.feed byte).2 = .ok (some (relayPacket message))) :
    terminal.feed byte slave =
      ({ receiver := (terminal.receiver.feed byte).1
         inbox := { message, fresh := false } },
        (slave.run (.ofReport message)).station,
        .ran (slave.run (.ofReport message)).outcome) := by
  simp only [Terminal.feed, hmessage, relayPacket, if_true, Terminal.run, Station.runInbox,
    Inbox.receive, Inbox.take, Report.ofBytes_toList, Station.runRelayed_of_slave hrole]

/-! ## What happens to a parked message -/

theorem takeOutgoing_of_pending {master : Station near}
    (hpending : master.outbox.pending = true) :
    takeOutgoing master = ({ master with outbox := master.outbox.markSent },
      some (relayPacket master.outbox.message).encode) := by
  simp [takeOutgoing, Outbox.take, hpending]

theorem takeOutgoing_of_not_pending {master : Station near}
    (hpending : master.outbox.pending = false) :
    takeOutgoing master = ({ master with outbox := master.outbox.markSent }, none) := by
  simp [takeOutgoing, Outbox.take, hpending]

section

variable {master : Station near} {notes : List Note}
  (hkept : transmitted notes ++ master.outbox.take.2.toList = kept (accepted notes))
include hkept

/-- A frame of the host changes the outbox only by taking the place of the message in it. -/
theorem kept_execute (frame : Frame) :
    transmitted (notes ++ [.executed (Report.ofBytes frame.bytes) (master.run frame).outcome]) ++
        (master.run frame).station.outbox.take.2.toList =
      kept (accepted
        (notes ++ [.executed (Report.ofBytes frame.bytes) (master.run frame).outcome])) := by
  rcases Station.run_cases master frame with
    ⟨-, houtcome, hstation⟩ | ⟨_, _, -, -, houtcome, hstation⟩ | ⟨-, -, ⟨_, houtcome⟩, hstation⟩
  · have hnew : accepted [.executed (Report.ofBytes frame.bytes) (master.run frame).outcome] =
        [(Report.ofBytes frame.bytes, master.outbox.pending)] := by
      simp [accepted, houtcome]
    rw [accepted_append, hnew, kept_concat, ← hkept, transmitted_append]
    cases hpending : master.outbox.pending <;>
      simp [transmitted, Outbox.take, hstation, hpending]
  · simpa [houtcome, hstation, accepted, transmitted] using hkept
  · simpa [houtcome, hstation, accepted, transmitted] using hkept

/-- A message that is taken out of the outbox is not there any more. -/
theorem kept_transmit (hpending : master.outbox.pending = true) :
    transmitted (notes ++ [.transmitted master.outbox.message]) ++
        master.outbox.markSent.take.2.toList =
      kept (accepted (notes ++ [.transmitted master.outbox.message])) := by
  simpa [accepted, transmitted, Outbox.take, Outbox.markSent, hpending] using hkept

end

/-! ## What every move keeps -/

/-- How the halves and the wire stand after the given notes.  The slave half has taken the bytes
`begun` of the first of the messages `rest`; these and the wire together are their packets. -/
structure Tracks (slave : Station far) (begun : List UInt8) (rest : List Report)
    (relay : Relay near far) (notes : List Note) : Prop where
  transmitted_eq : transmitted notes = delivered notes ++ rest
  bytes_eq : begun ++ relay.wire = stream rest
  begun_lt : begun.length < messageSize
  taken_eq : bytesTaken notes = messageSize * (delivered notes).length + begun.length
  receiver_eq : relay.terminal.receiver = (Receiver.run begun .idle).1
  kept_eq : transmitted notes ++ relay.parked = kept (accepted notes)
  slave_eq : relay.slave =
    (delivered notes).foldl (fun station message => (station.run (.ofReport message)).station) slave
  slave_role : relay.slave.role = .slave
  fault_free : ∀ arrival message, .received arrival message ∈ notes →
    arrival = .nothing ∨ ∃ outcome, arrival = .ran outcome

theorem tracks_start {master : Station near} {slave : Station far}
    (hparked : master.outbox.pending = false) (hrole : slave.role = .slave) :
    Tracks slave [] [] (Relay.start master slave) [] where
  transmitted_eq := rfl
  bytes_eq := rfl
  begun_lt := by decide
  taken_eq := rfl
  receiver_eq := rfl
  kept_eq := by simp [Relay.parked, Relay.start, Outbox.take, hparked, transmitted, accepted, kept]
  slave_eq := rfl
  slave_role := hrole
  fault_free := by simp

section Step

variable {slave : Station far} {begun : List UInt8} {rest : List Report}
variable {relay : Relay near far} {notes : List Note}

/-- A frame of the host changes the outbox only by taking the place of the message in it. -/
theorem Tracks.execute (h : Tracks slave begun rest relay notes) (frame : Frame) :
    Tracks slave begun rest (relay.step (.execute frame)).1
      (notes ++ [(relay.step (.execute frame)).2]) where
  transmitted_eq := by simpa [Relay.step, transmitted, delivered] using h.transmitted_eq
  bytes_eq := h.bytes_eq
  begun_lt := h.begun_lt
  taken_eq := by simpa [Relay.step, bytesTaken, delivered] using h.taken_eq
  receiver_eq := h.receiver_eq
  kept_eq := kept_execute h.kept_eq frame
  slave_eq := by simpa [Relay.step, delivered] using h.slave_eq
  slave_role := h.slave_role
  fault_free := by simpa [Relay.step] using h.fault_free

theorem step_transmit_of_pending (hpending : relay.master.outbox.pending = true) :
    relay.step .transmit =
      ({ relay with
          master := { relay.master with outbox := relay.master.outbox.markSent }
          wire := relay.wire ++ (relayPacket relay.master.outbox.message).encode },
        .transmitted relay.master.outbox.message) := by
  simp only [Relay.step, takeOutgoing_of_pending hpending]

theorem step_transmit_of_not_pending (hpending : relay.master.outbox.pending = false) :
    relay.step .transmit = (relay, .nothing) := by
  simp only [Relay.step, takeOutgoing_of_not_pending hpending]

/-- A move that notes nothing and changes nothing keeps everything. -/
theorem Tracks.nothing (h : Tracks slave begun rest relay notes) :
    Tracks slave begun rest relay (notes ++ [.nothing]) where
  transmitted_eq := by simpa [transmitted, delivered] using h.transmitted_eq
  bytes_eq := h.bytes_eq
  begun_lt := h.begun_lt
  taken_eq := by simpa [bytesTaken, delivered] using h.taken_eq
  receiver_eq := h.receiver_eq
  kept_eq := by simpa [transmitted, accepted] using h.kept_eq
  slave_eq := by simpa [delivered] using h.slave_eq
  slave_role := h.slave_role
  fault_free := by simpa using h.fault_free

/-- The parked message becomes the last one on the wire. -/
theorem Tracks.transmit (h : Tracks slave begun rest relay notes) :
    ∃ rest, Tracks slave begun rest (relay.step .transmit).1
      (notes ++ [(relay.step .transmit).2]) := by
  cases hpending : relay.master.outbox.pending with
  | false =>
      rw [step_transmit_of_not_pending hpending]
      exact ⟨rest, h.nothing⟩
  | true =>
      rw [step_transmit_of_pending hpending]
      refine ⟨rest ++ [relay.master.outbox.message], ?_⟩
      exact {
        transmitted_eq := by
          rw [transmitted_append, delivered_append, h.transmitted_eq]
          simp [transmitted, delivered]
        bytes_eq := by
          rw [← List.append_assoc, h.bytes_eq, stream_append]
          simp [stream]
        begun_lt := h.begun_lt
        taken_eq := by simpa [bytesTaken, delivered] using h.taken_eq
        receiver_eq := h.receiver_eq
        kept_eq := kept_transmit h.kept_eq hpending
        slave_eq := by simpa [delivered] using h.slave_eq
        slave_role := h.slave_role
        fault_free := by simpa using h.fault_free }

/-- As long as a packet is not complete, the next byte of the wire is its next byte. -/
theorem Tracks.next_byte (h : Tracks slave begun rest relay notes) {byte : UInt8}
    {wire : List UInt8} (hwire : relay.wire = byte :: wire) :
    ∃ message later left, rest = message :: later ∧
      (relayPacket message).encode = begun ++ byte :: left ∧ wire = left ++ stream later := by
  have hbytes := h.bytes_eq
  rw [hwire] at hbytes
  cases rest with
  | nil => simp [stream] at hbytes
  | cons message later =>
      rw [stream, List.flatMap_cons, ← stream] at hbytes
      have hlength := length_encode_relayPacket message
      have hbegun := h.begun_lt
      rcases List.append_eq_append_iff.mp hbytes with ⟨left, hencode, hleft⟩ | ⟨extra, hextra, -⟩
      · cases left with
        | nil =>
            rw [hencode, List.append_nil] at hlength
            exact absurd hlength hbegun.ne
        | cons first left =>
            rw [List.cons_append, List.cons.injEq] at hleft
            obtain ⟨rfl, rfl⟩ := hleft
            exact ⟨message, later, left, rfl, hencode, rfl⟩
      · rw [hextra, List.length_append, hlength] at hbegun
        exact absurd hbegun (Nat.not_lt.mpr (Nat.le_add_right _ _))

theorem Tracks.fault_free_concat (h : Tracks slave begun rest relay notes) {arrival : Arrival}
    {message : Report} (harrival : arrival = .nothing ∨ ∃ outcome, arrival = .ran outcome) :
    ∀ earlier text, .received earlier text ∈ notes ++ [.received arrival message] →
      earlier = .nothing ∨ ∃ outcome, earlier = .ran outcome := by
  intro earlier text hmem
  rcases List.mem_append.mp hmem with hold | hnew
  · exact h.fault_free earlier text hold
  · rw [List.mem_singleton, Note.received.injEq] at hnew
    rw [hnew.1]
    exact harrival

/-- A byte in the middle of a packet is kept by the receiver. -/
theorem Tracks.receive_middle (h : Tracks slave begun rest relay notes) {byte : UInt8}
    {wire left : List UInt8} {message : Report} (hwire : relay.wire = byte :: wire)
    (hencode : (relayPacket message).encode = begun ++ byte :: left) (hleft : left ≠ []) :
    Tracks slave (begun ++ [byte]) rest (relay.step .receive).1
      (notes ++ [(relay.step .receive).2]) := by
  have hfits : (relayPacket message).payload.length ≤ payloadLimit := by simp [relayPacket]
  have hfeed := Receiver.feed_of_encode_eq hfits hencode
  rw [if_neg hleft, ← h.receiver_eq] at hfeed
  have hstep : relay.step .receive =
      ({ relay with
          wire
          terminal := { relay.terminal with receiver := (relay.terminal.receiver.feed byte).1 } },
        .received .nothing relay.terminal.inbox.message) := by
    simp only [Relay.step, hwire, Terminal.feed_of_nothing relay.slave hfeed]
  have hlength : begun.length + 1 < messageSize := by
    have hlong := congrArg List.length hencode
    have hpos : 0 < left.length := List.length_pos_iff.mpr hleft
    rw [length_encode_relayPacket, List.length_append, List.length_cons] at hlong
    omega
  rw [hstep]
  exact {
    transmitted_eq := by simpa [transmitted, delivered] using h.transmitted_eq
    bytes_eq := by
      rw [List.append_assoc, List.singleton_append, ← hwire]
      exact h.bytes_eq
    begun_lt := by simpa using hlength
    taken_eq := by
      rw [bytesTaken_append, h.taken_eq]
      simp [bytesTaken, delivered, Nat.add_assoc]
    receiver_eq := by
      rw [Receiver.run_concat, ← h.receiver_eq]
    kept_eq := by simpa [transmitted, accepted, Relay.parked] using h.kept_eq
    slave_eq := by simpa [delivered] using h.slave_eq
    slave_role := h.slave_role
    fault_free := h.fault_free_concat (.inl rfl) }

/-- The last byte of a packet makes the slave half run its message. -/
theorem Tracks.receive_last (h : Tracks slave begun rest relay notes) {byte : UInt8}
    {wire : List UInt8} {message : Report} {later : List Report}
    (hwire : relay.wire = byte :: wire) (hrest : rest = message :: later)
    (hencode : (relayPacket message).encode = begun ++ [byte]) (hlater : wire = stream later) :
    Tracks slave [] later (relay.step .receive).1 (notes ++ [(relay.step .receive).2]) := by
  have hfits : (relayPacket message).payload.length ≤ payloadLimit := by simp [relayPacket]
  have hfeed := Receiver.feed_of_encode_eq hfits hencode
  rw [if_pos rfl, ← h.receiver_eq] at hfeed
  have hidle : (relay.terminal.receiver.feed byte).1 = .idle := by
    have hrun := congrArg Prod.fst (Receiver.run_encode hfits)
    rw [hencode, Receiver.run_concat, ← h.receiver_eq] at hrun
    exact hrun
  have hstep : relay.step .receive =
      ({ relay with
          wire
          terminal := { receiver := .idle, inbox := { message, fresh := false } }
          slave := (relay.slave.run (.ofReport message)).station },
        .received (.ran (relay.slave.run (.ofReport message)).outcome) message) := by
    simp only [Relay.step, hwire, Terminal.feed_of_message h.slave_role hfeed, hidle]
  have hlength : begun.length + 1 = messageSize := by
    have hlong := congrArg List.length hencode
    rw [length_encode_relayPacket, List.length_append, List.length_singleton] at hlong
    exact hlong.symm
  rw [hstep]
  exact {
    transmitted_eq := by
      rw [transmitted_append, delivered_append, h.transmitted_eq, hrest]
      simp [transmitted, delivered]
    bytes_eq := hlater
    begun_lt := by decide
    taken_eq := by
      rw [bytesTaken_append, delivered_append, h.taken_eq, List.length_append]
      simp [bytesTaken, delivered, Nat.mul_add, Nat.add_assoc, hlength]
    receiver_eq := rfl
    kept_eq := by simpa [transmitted, accepted, Relay.parked] using h.kept_eq
    slave_eq := by
      rw [delivered_append, List.foldl_append, ← h.slave_eq]
      rfl
    slave_role := by
      rw [Station.role_run]
      exact h.slave_role
    fault_free := h.fault_free_concat (.inr ⟨_, rfl⟩) }

theorem Tracks.receive (h : Tracks slave begun rest relay notes) :
    ∃ begun rest, Tracks slave begun rest (relay.step .receive).1
      (notes ++ [(relay.step .receive).2]) := by
  cases hwire : relay.wire with
  | nil =>
      have hstep : relay.step .receive = (relay, .nothing) := by simp only [Relay.step, hwire]
      rw [hstep]
      exact ⟨begun, rest, h.nothing⟩
  | cons byte wire =>
      obtain ⟨message, later, left, hrest, hencode, hleft⟩ := h.next_byte hwire
      by_cases hlast : left = []
      · subst hlast
        exact ⟨[], later, h.receive_last hwire hrest hencode hleft⟩
      · exact ⟨begun ++ [byte], rest, h.receive_middle hwire hencode hlast⟩

end Step

/-- Whatever is done in whatever order, the halves and the wire stand as the notes say. -/
theorem Tracks.run {slave : Station far} (moves : List Move) {relay : Relay near far}
    {notes : List Note} {begun : List UInt8} {rest : List Report}
    (h : Tracks slave begun rest relay notes) :
    ∃ begun rest, Tracks slave begun rest (relay.run moves).1 (notes ++ (relay.run moves).2) := by
  induction moves generalizing relay notes begun rest with
  | nil =>
      rw [Relay.run, List.append_nil]
      exact ⟨begun, rest, h⟩
  | cons move moves ih =>
      have hstep : ∃ begun rest, Tracks slave begun rest (relay.step move).1
          (notes ++ [(relay.step move).2]) := by
        cases move with
        | execute frame => exact ⟨begun, rest, h.execute frame⟩
        | transmit => exact ⟨begun, h.transmit⟩
        | receive => exact h.receive
      obtain ⟨_, _, hnext⟩ := hstep
      have hrun := ih hnext
      rw [List.append_assoc, List.singleton_append] at hrun
      exact hrun

/-- The messages on the wire are the ones that the notes say. -/
theorem Tracks.onWire_eq {slave : Station far} {begun : List UInt8} {rest : List Report}
    {relay : Relay near far} {notes : List Note} (h : Tracks slave begun rest relay notes) :
    onWire notes = rest := by
  have hcount : bytesTaken notes / messageSize = (delivered notes).length := by
    rw [h.taken_eq, Nat.mul_add_div (by decide), Nat.div_eq_of_lt h.begun_lt, Nat.add_zero]
  rw [onWire, hcount, h.transmitted_eq, List.drop_left]

/-- The wire holds what was written to it and not taken yet. -/
theorem Tracks.wire_eq {slave : Station far} {begun : List UInt8} {rest : List Report}
    {relay : Relay near far} {notes : List Note} (h : Tracks slave begun rest relay notes) :
    relay.wire = (stream (transmitted notes)).drop (bytesTaken notes) := by
  have htaken : (stream (delivered notes) ++ begun).length = bytesTaken notes := by
    rw [List.length_append, length_stream, h.taken_eq]
  rw [h.transmitted_eq, stream_append, ← h.bytes_eq, ← List.append_assoc, ← htaken,
    List.drop_left]

/-- Between two fresh halves, whatever is done in whatever order: the messages that the slave
half has run, then those on the wire, then the parked one, are the frames accepted for it
without those that were overwritten, each once and in order.  The slave half never sees a fault
or a packet of another kind.  Once nothing is parked and the wire is empty, the last frame that
was accepted is the last one that the slave half has run. -/
theorem relay_in_order {master : Station near} {slave : Station far}
    {nearGeometry farGeometry : Screen.Geometry}
    (hmaster : Station.make .master nearGeometry = .ok master)
    (hslave : Station.make .slave farGeometry = .ok slave) (moves : List Move)
    {relay : Relay near far} {notes : List Note}
    (hrun : (Relay.start master slave).run moves = (relay, notes)) :
    delivered notes ++ onWire notes ++ relay.parked = kept (accepted notes) ∧
    relay.wire = (stream (transmitted notes)).drop (bytesTaken notes) ∧
    relay.slave = (delivered notes).foldl
      (fun station message => (station.run (.ofReport message)).station) slave ∧
    (∀ arrival message, .received arrival message ∈ notes →
      arrival = .nothing ∨ ∃ outcome, arrival = .ran outcome) ∧
    (relay.master.outbox.pending = false → relay.wire = [] →
      (delivered notes).getLast? = ((accepted notes).map Prod.fst).getLast?) := by
  obtain ⟨-, hempty⟩ := Station.make_eq_ok hmaster
  obtain ⟨hrole, -⟩ := Station.make_eq_ok hslave
  have hparked : master.outbox.pending = false := by
    rw [hempty]
    rfl
  obtain ⟨begun, rest, htracks⟩ := (tracks_start hparked hrole).run moves
  rw [hrun, List.nil_append] at htracks
  have hkept : delivered notes ++ onWire notes ++ relay.parked = kept (accepted notes) := by
    rw [htracks.onWire_eq, ← htracks.transmitted_eq]
    exact htracks.kept_eq
  refine ⟨hkept, htracks.wire_eq, htracks.slave_eq, htracks.fault_free, ?_⟩
  intro hpending hdrained
  have hrest : rest = [] := by
    cases rest with
    | nil => rfl
    | cons message later =>
        have hlength := congrArg List.length htracks.bytes_eq
        have hbegun := htracks.begun_lt
        rw [hdrained, List.append_nil, length_stream, List.length_cons, Nat.mul_succ] at hlength
        omega
  have hnone : relay.parked = [] := by simp [Relay.parked, Outbox.take, hpending]
  rw [htracks.onWire_eq, hrest, hnone, List.append_nil, List.append_nil] at hkept
  rw [hkept, getLast?_kept]

/-- A line that holds a start byte is overwritten before it is written to the wire, so the slave
half never sees it. -/
theorem relay_in_order_overwriting :
    let master : Station 8 := { role := .master, screen := .cleared ⟨4, 2⟩, outbox := .empty }
    let slave : Station 8 := { role := .slave, screen := .cleared ⟨4, 2⟩, outbox := .empty }
    let first := Frame.holding [2, 0, 2, 1, 0, startByte]
    let second := Frame.holding [2, 0, 2, 1, 1, startByte]
    let moves := [.execute first, .execute second, .transmit] ++ List.replicate 36 .receive
    let notes := ((Relay.start master slave).run moves).2
    accepted notes =
        [(Report.ofBytes first.bytes, false), (Report.ofBytes second.bytes, true)] ∧
      delivered notes = [Report.ofBytes second.bytes] := by
  intro master slave first second moves notes
  have hmaster : Station.make .master ⟨4, 2⟩ = .ok master := rfl
  have hslave : Station.make .slave ⟨4, 2⟩ = .ok slave := rfl
  have haccepted : accepted notes =
      [(Report.ofBytes first.bytes, false), (Report.ofBytes second.bytes, true)] := by decide
  have hwire : onWire notes = [] := by decide
  have hparked : ((Relay.start master slave).run moves).1.parked = [] := by decide
  have horder := (relay_in_order hmaster hslave moves (Prod.eta _).symm).1
  rw [hwire, hparked, haccepted, List.append_nil, List.append_nil] at horder
  exact ⟨haccepted, horder⟩

end SplitPanel.Link

import SplitPanel.Proofs.Reception

/-!
# Packets in a stream

An idle receiver skips everything up to a start byte, and it is idle again after a packet.  So it
takes packets out of any stream of them, with anything between them that does not hold a start byte,
each at its last byte and without a fault.
-/

namespace SplitPanel.Link

/-- The bytes that writing a packet to a buffer leaves to be sent. -/
def Packet.written (packet : Packet) (buffer : List UInt8) : List UInt8 :=
  match packet.encodeInto buffer with
  | .ok (size, filled) => filled.take size
  | .error _ => []

theorem Packet.written_eq_encode {packet : Packet} {buffer : List UInt8}
    (hroom : packet.payload.length + overhead ≤ buffer.length) :
    packet.written buffer = packet.encode := by
  have hinto : packet.encodeInto buffer = .ok (packet.payload.length + overhead,
      packet.encode ++ buffer.drop (packet.payload.length + overhead)) :=
    if_neg (Nat.not_lt.mpr hroom)
  rw [Packet.written, hinto, ← Packet.length_encode]
  exact List.take_left

/-- A packet on the link, with the buffer that it was written to and the noise behind it. -/
structure Sending where
  packet : Packet
  buffer : List UInt8
  noise : List UInt8
  fits : packet.payload.length ≤ payloadLimit
  room : packet.payload.length + overhead ≤ buffer.length
  plain : startByte ∉ noise

namespace Sending

/-- What reaches the other end. -/
def bytes (sending : Sending) : List UInt8 :=
  sending.packet.written sending.buffer ++ sending.noise

/-- The packet at its last byte, and nothing else. -/
def receptions (sending : Sending) : List Receiver.Reception :=
  Receiver.receptionsOf sending.packet ++ List.replicate sending.noise.length (.ok none)

end Sending

namespace Receiver

/-- The packets that were yielded. -/
def yielded (receptions : List Reception) : List Packet :=
  receptions.filterMap fun reception =>
    match reception with
    | .ok packet => packet
    | .error _ => none

@[simp]
theorem yielded_append (first second : List Reception) :
    yielded (first ++ second) = yielded first ++ yielded second :=
  List.filterMap_append

@[simp]
theorem yielded_replicate_none (count : ℕ) : yielded (List.replicate count (.ok none)) = [] := by
  simp [yielded]

@[simp]
theorem yielded_receptionsOf (packet : Packet) : yielded (receptionsOf packet) = [packet] := by
  rw [receptionsOf, yielded_append, yielded_replicate_none]
  rfl

/-- An idle receiver skips what holds no start byte. -/
theorem run_of_plain {noise : List UInt8} (hplain : startByte ∉ noise) :
    run noise .idle = (.idle, List.replicate noise.length (.ok none)) := by
  induction noise with
  | nil => rfl
  | cons byte rest ih =>
      have hbyte : byte ≠ startByte := fun h => hplain (by simp [h])
      have hskip : feed byte .idle = (.idle, .ok none) := by rw [feed, if_neg hbyte]
      rw [run_cons, hskip, ih (List.not_mem_of_not_mem_cons hplain)]
      rfl

theorem run_sending (sending : Sending) :
    run sending.bytes .idle = (.idle, sending.receptions) := by
  rw [Sending.bytes, Packet.written_eq_encode sending.room, run_append, run_encode sending.fits,
    run_of_plain sending.plain, Sending.receptions]

theorem yielded_receptions (sending : Sending) :
    yielded sending.receptions = [sending.packet] := by
  rw [Sending.receptions, yielded_append, yielded_receptionsOf, yielded_replicate_none]
  rfl

theorem yielded_flatMap (sent : List Sending) :
    yielded (sent.flatMap Sending.receptions) = sent.map Sending.packet := by
  induction sent with
  | nil => rfl
  | cons sending rest ih =>
      rw [List.flatMap_cons, yielded_append, yielded_receptions, ih]
      rfl

theorem error_notMem_receptions (cause : LinkFault) (sending : Sending) :
    .error cause ∉ sending.receptions := by
  simp [Sending.receptions, receptionsOf]

/-- Idle again after each of them, the receiver takes one part of a stream after the other. -/
theorem run_flatMap {α : Type} {bytes : α → List UInt8} {receptions : α → List Reception}
    (parts : List α) (heach : ∀ part ∈ parts, run (bytes part) .idle = (.idle, receptions part)) :
    run (parts.flatMap bytes) .idle = (.idle, parts.flatMap receptions) := by
  induction parts with
  | nil => rfl
  | cons part rest ih =>
      have hfirst := heach part (by simp)
      have hrest := ih fun later hlater => heach later (by simp [hlater])
      rw [List.flatMap_cons, run_append, hfirst, hrest, List.flatMap_cons]

/-- Whatever is sent, with whatever noise without a start byte before, between and after the
packets: each packet is yielded at its checksum, in order, and nothing else happens. -/
theorem run_noisy_stream {noise : List UInt8} (hplain : startByte ∉ noise) (sent : List Sending) :
    run (noise ++ sent.flatMap Sending.bytes) .idle =
        (.idle, List.replicate noise.length (.ok none) ++ sent.flatMap Sending.receptions) ∧
      yielded (run (noise ++ sent.flatMap Sending.bytes) .idle).2 = sent.map Sending.packet ∧
      ∀ cause, .error cause ∉ (run (noise ++ sent.flatMap Sending.bytes) .idle).2 := by
  have hrun : run (noise ++ sent.flatMap Sending.bytes) .idle =
      (.idle, List.replicate noise.length (.ok none) ++ sent.flatMap Sending.receptions) := by
    rw [run_append, run_of_plain hplain, run_flatMap sent fun sending _ => run_sending sending]
  rw [hrun]
  refine ⟨rfl, ?_, ?_⟩
  · rw [yielded_append, yielded_replicate_none, List.nil_append]
    exact yielded_flatMap sent
  · intro cause hmem
    rcases List.mem_append.mp hmem with hnoise | hsent
    · simp at hnoise
    · obtain ⟨sending, -, hmem⟩ := List.mem_flatMap.mp hsent
      exact error_notMem_receptions cause sending hmem

/-- Start bytes in a kind, in a payload and in a checksum start nothing. -/
theorem run_noisy_stream_of_start_bytes :
    let empty : Sending := {
      packet := { kind := startByte, payload := [] }
      buffer := [0, 0, 0, 0]
      noise := [7]
      fits := by decide
      room := by decide
      plain := by decide }
    let full : Sending := {
      packet := { kind := 0, payload := List.replicate 32 startByte }
      buffer := List.replicate 40 0xEE
      noise := []
      fits := by decide
      room := by decide
      plain := by decide }
    yielded (run ([0, 0x13] ++ [empty, full].flatMap Sending.bytes) .idle).2 =
      [{ kind := startByte, payload := [] },
        { kind := 0, payload := List.replicate 32 startByte }] := by
  intro empty full
  have hplain : startByte ∉ ([0, 0x13] : List UInt8) := by decide
  exact (run_noisy_stream hplain [empty, full]).2.1

end Receiver

end SplitPanel.Link

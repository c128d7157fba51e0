import SplitPanel.Proofs.PacketStream
import SplitPanel.Proofs.ReceiverStates
import SplitPanel.Proofs.Relaying

/-!
# Falling into step again

Line noise may leave the receiver anywhere in a packet that never was, and it then takes the bytes
of a true packet for the rest of that one.  But what it holds grows with every byte until it is
idle again, and a packet is not longer than the packet of a report.  As long as no start byte
follows, that many bytes therefore make it idle, and it misses no more than one packet.
-/

namespace SplitPanel.Link.Receiver

theorem begun_ne_nil {receiver : Receiver} (hbusy : receiver ≠ .idle) : receiver.begun ≠ [] := by
  cases receiver with
  | idle => exact absurd rfl hbusy
  | atLength | atKind | inPayload | atChecksum => nofun

/-- The packet that has begun still lacks a byte. -/
theorem Bounded.length_begun_lt {receiver : Receiver} (hbounded : receiver.Bounded) :
    receiver.begun.length < messageSize := by
  cases receiver with
  | idle => decide
  | atLength => decide
  | atKind announced => exact (by decide : 2 < messageSize)
  | inPayload announced kind collected =>
      have hcollected : collected.length < payloadLimit := lt_of_lt_of_le hbounded.1 hbounded.2
      exact Nat.add_lt_add_right (lt_of_lt_of_le hcollected (Nat.le_succ _)) 3
  | atChecksum announced kind collected =>
      have hcollected : collected.length ≤ payloadLimit := hbounded.1.trans_le hbounded.2
      exact Nat.add_lt_add_right (Nat.lt_succ_of_le hcollected) 3

/-- Without a start byte, a receiver becomes idle or holds every byte that it is fed. -/
theorem idle_or_begun_run {receiver : Receiver} (hbounded : receiver.Bounded)
    {bytes : List UInt8} (hplain : startByte ∉ bytes) :
    (run bytes receiver).1 = .idle ∨ (run bytes receiver).1.begun = receiver.begun ++ bytes := by
  induction bytes generalizing receiver with
  | nil => exact .inr (List.append_nil _).symm
  | cons byte rest ih =>
      have hrest : startByte ∉ rest := List.not_mem_of_not_mem_cons hplain
      have hidle : (run rest .idle).1 = .idle := congrArg Prod.fst (run_of_plain hrest)
      have heffect := effect_feed hbounded byte
      rw [run_cons]
      generalize receiver.feed byte = result at heffect ⊢
      cases heffect with
      | skipped => exact .inl hidle
      | completed => exact .inl hidle
      | refused => exact .inl hidle
      | taken hbegun hnext =>
          rcases ih hnext hrest with hdone | hheld
          · exact .inl hdone
          · right
            rw [hheld, hbegun, List.append_assoc]
            rfl

/-- As many bytes as the packet of a report has make a receiver idle, if at most the first of them
is a start byte. -/
theorem Bounded.run_eq_idle {receiver : Receiver} (hbounded : receiver.Bounded)
    {bytes : List UInt8} (hlength : messageSize ≤ bytes.length)
    (hplain : startByte ∉ bytes.tail) : (Receiver.run bytes receiver).1 = .idle := by
  cases bytes with
  | nil => simp at hlength
  | cons byte rest =>
      rw [List.tail_cons] at hplain
      have hnext := hbounded.feed byte
      rw [run_cons]
      by_cases hidle : (receiver.feed byte).1 = .idle
      · rw [hidle, run_of_plain hplain]
      · rcases idle_or_begun_run hnext hplain with hdone | hheld
        · exact hdone
        · -- with the first byte it would hold as much as the longest packet, and not be complete
          have hbusy : 0 < (receiver.feed byte).1.begun.length :=
            List.length_pos_iff.mpr (begun_ne_nil hidle)
          have hless := (hnext.run rest).length_begun_lt
          rw [hheld, List.length_append] at hless
          rw [List.length_cons] at hlength
          omega

/-- Whatever came before: after as many bytes as the packet of a report has, of which at most the
first is a start byte, the receiver is as it was in the beginning.  So of reports whose packets hold
no other start byte at most the first is missed, and what follows it leads to nothing but the
others, in order. -/
theorem run_resynchronises (noise : List UInt8) :
    (∀ bytes : List UInt8, messageSize ≤ bytes.length → startByte ∉ bytes.tail →
      (run (noise ++ bytes) .idle).1 = .idle) ∧
    (∀ (first : Report) (later : List Report),
      (∀ message ∈ first :: later, startByte ∉ (relayPacket message).encode.tail) →
      run (noise ++ stream (first :: later)) .idle =
        (.idle, (run (noise ++ stream [first]) .idle).2 ++
          later.flatMap fun message => receptionsOf (relayPacket message))) := by
  have hidle : ∀ bytes : List UInt8, messageSize ≤ bytes.length → startByte ∉ bytes.tail →
      (run (noise ++ bytes) .idle).1 = .idle := by
    intro bytes hlength hplain
    have hstart : idle.Bounded := trivial
    rw [run_append]
    exact (hstart.run noise).run_eq_idle hlength hplain
  refine ⟨hidle, ?_⟩
  intro first later hplain
  have hfirst : (run (noise ++ stream [first]) .idle).1 = .idle := by
    apply hidle
    · rw [length_stream]
      rfl
    · rw [stream, List.flatMap_singleton]
      exact hplain first (by simp)
  have hlater : run (stream later) .idle =
      (.idle, later.flatMap fun message => receptionsOf (relayPacket message)) := by
    apply run_flatMap
    intro message _
    apply run_encode
    simp [relayPacket]
  have hstream : noise ++ stream (first :: later) = (noise ++ stream [first]) ++ stream later := by
    rw [List.append_assoc, ← stream_append]
    rfl
  rw [hstream, run_append, hfirst, hlater]

/-- A packet that was cut off after its kind takes most of the next one for its payload, and the
one after that is yielded. -/
theorem run_resynchronises_after_cut_off_packet :
    let noise : List UInt8 := [startByte, 32, 9]
    let first : Report := Vector.replicate 32 0x11
    let second : Report := Vector.replicate 32 0x22
    (run (noise ++ (relayPacket first).encode) .idle).1 = .idle ∧
      yielded (run (noise ++ stream [first, second]) .idle).2 = [relayPacket second] := by
  intro noise first second
  have hplain : ∀ message ∈ [first, second], startByte ∉ (relayPacket message).encode.tail := by
    decide
  have hmissed : yielded (run (noise ++ stream [first]) .idle).2 = [] := by decide
  constructor
  · exact (run_resynchronises noise).1 _ (by decide) (hplain first (by simp))
  · rw [(run_resynchronises noise).2 first [second] hplain, yielded_append, hmissed]
    exact yielded_receptionsOf (relayPacket second)

end SplitPanel.Link.Receiver

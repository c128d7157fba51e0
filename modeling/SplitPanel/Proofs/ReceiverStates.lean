import Mathlib.Data.List.Induction
import SplitPanel.Proofs.Reception

/-!
# The states of the receiver

The receiver always holds the beginning of a packet: the bytes since the start byte, in the order
in which they came.  A byte is skipped, or becomes the next one of these, or is the last one of a
packet, or is refused; after the last two nothing is held any more.  So a packet is only ever
yielded for the bytes that it is encoded as, and each of them counts for one packet.
-/

namespace SplitPanel.Link.Receiver

/-- No more is collected than was announced, and no more is announced than a packet can hold. -/
def Bounded : Receiver → Prop
  | .idle | .atLength => True
  | .atKind announced => announced.toNat ≤ payloadLimit
  | .inPayload announced _ collected =>
    collected.length < announced.toNat ∧ announced.toNat ≤ payloadLimit
  | .atChecksum announced _ collected =>
    collected.length = announced.toNat ∧ announced.toNat ≤ payloadLimit

/-- The bytes of the packet that has begun. -/
def begun : Receiver → List UInt8
  | .idle => []
  | .atLength => [startByte]
  | .atKind announced => [startByte, announced]
  | .inPayload announced kind collected | .atChecksum announced kind collected =>
    startByte :: announced :: kind :: collected

/-- What a byte can lead to. -/
inductive Effect (receiver : Receiver) (byte : UInt8) : Receiver × Reception → Prop where
  | skipped (hidle : receiver = .idle) (hbyte : byte ≠ startByte) :
      Effect receiver byte (.idle, .ok none)
  | taken {next : Receiver} (hbegun : next.begun = receiver.begun ++ [byte])
      (hbounded : next.Bounded) (hstart : receiver = .idle → byte = startByte) :
      Effect receiver byte (next, .ok none)
  | completed {packet : Packet} (hencode : packet.encode = receiver.begun ++ [byte])
      (hfits : packet.payload.length ≤ payloadLimit) :
      Effect receiver byte (.idle, .ok (some packet))
  | refused (cause : LinkFault) (hbusy : receiver ≠ .idle) :
      Effect receiver byte (.idle, .error cause)

/-- There is room for every byte of a payload. -/
theorem Bounded.collect_eq {announced kind : UInt8} {collected : List UInt8}
    (hbounded : (inPayload announced kind collected).Bounded) (byte : UInt8) :
    collect collected byte = collected ++ [byte] :=
  if_pos (lt_of_lt_of_le hbounded.1 hbounded.2)

theorem effect_feed {receiver : Receiver} (hbounded : receiver.Bounded) (byte : UInt8) :
    Effect receiver byte (receiver.feed byte) := by
  cases receiver with
  | idle =>
      by_cases hbyte : byte = startByte
      · rw [feed, if_pos hbyte]
        apply Effect.taken
        · rw [hbyte]
          rfl
        · trivial
        · exact fun _ => hbyte
      · rw [feed, if_neg hbyte]
        exact .skipped rfl hbyte
  | atLength =>
      have hbusy : atLength ≠ .idle := by simp
      by_cases hlong : payloadLimit < byte.toNat
      · rw [feed, if_pos hlong]
        exact .refused .invalidFrame hbusy
      · rw [feed, if_neg hlong]
        exact .taken rfl (Nat.not_lt.mp hlong) fun hidle => absurd hidle hbusy
  | atKind announced =>
      have hbusy : atKind announced ≠ .idle := by simp
      by_cases hempty : announced = 0
      · rw [feed, if_pos hempty]
        have hnone : ([] : List UInt8).length = announced.toNat := by
          rw [hempty]
          rfl
        exact .taken rfl ⟨hnone, hbounded⟩ fun hidle => absurd hidle hbusy
      · rw [feed, if_neg hempty]
        have hpos : 0 < announced.toNat := by
          apply Nat.pos_of_ne_zero
          intro hzero
          exact hempty (UInt8.toNat_inj.mp hzero)
        exact .taken rfl ⟨hpos, hbounded⟩ fun hidle => absurd hidle hbusy
  | inPayload announced kind collected =>
      have hbusy : inPayload announced kind collected ≠ .idle := by simp
      rw [feed]
      simp only [hbounded.collect_eq byte]
      obtain ⟨hmore, hlimit⟩ := hbounded
      by_cases hlast : (collected ++ [byte]).length = announced.toNat
      · rw [if_pos hlast]
        exact .taken rfl ⟨hlast, hlimit⟩ fun hidle => absurd hidle hbusy
      · rw [if_neg hlast]
        have hless : (collected ++ [byte]).length < announced.toNat := by
          rw [List.length_append, List.length_singleton] at hlast ⊢
          exact lt_of_le_of_ne hmore hlast
        exact .taken rfl ⟨hless, hlimit⟩ fun hidle => absurd hidle hbusy
  | atChecksum announced kind collected =>
      have hbusy : atChecksum announced kind collected ≠ .idle := by simp
      obtain ⟨hlength, hlimit⟩ := hbounded
      by_cases hbyte : byte = checksum announced kind collected
      · rw [feed, if_pos hbyte]
        have hannounced : UInt8.ofNat collected.length = announced := by
          rw [hlength, UInt8.ofNat_toNat]
        apply Effect.completed
        · rw [Packet.encode, hannounced, hbyte]
          rfl
        · exact hlength.trans_le hlimit
      · rw [feed, if_neg hbyte]
        exact .refused .invalidChecksum hbusy

/-- A packet is yielded at its last byte, when all the others are held. -/
theorem encode_eq_of_feed {receiver : Receiver} (hbounded : receiver.Bounded) {byte : UInt8}
    {packet : Packet} (hpacket : (receiver.feed byte).2 = .ok (some packet)) :
    packet.encode = receiver.begun ++ [byte] ∧ packet.payload.length ≤ payloadLimit := by
  have heffect := effect_feed hbounded byte
  generalize receiver.feed byte = result at heffect hpacket
  cases heffect with
  | skipped => nomatch hpacket
  | taken => nomatch hpacket
  | refused => nomatch hpacket
  | completed hencode hfits =>
      injection hpacket with hpacket
      injection hpacket with hpacket
      rw [← hpacket]
      exact ⟨hencode, hfits⟩

theorem idle_of_feed {receiver : Receiver} (hbounded : receiver.Bounded) {byte : UInt8}
    (hreport : (receiver.feed byte).2 ≠ .ok none) : (receiver.feed byte).1 = .idle := by
  have heffect := effect_feed hbounded byte
  generalize receiver.feed byte = result at heffect hreport ⊢
  cases heffect with
  | skipped => rfl
  | taken => exact absurd rfl hreport
  | completed => rfl
  | refused => rfl

theorem Bounded.feed {receiver : Receiver} (hbounded : receiver.Bounded) (byte : UInt8) :
    (receiver.feed byte).1.Bounded := by
  have heffect := effect_feed hbounded byte
  generalize receiver.feed byte = result at heffect ⊢
  cases heffect with
  | skipped => trivial
  | taken _ hnext => exact hnext
  | completed => trivial
  | refused => trivial

theorem Bounded.run {receiver : Receiver} (hbounded : receiver.Bounded) (bytes : List UInt8) :
    (run bytes receiver).1.Bounded := by
  induction bytes generalizing receiver with
  | nil => exact hbounded
  | cons byte rest ih => exact ih (hbounded.feed byte)

/-! ## Whatever was done before -/

/-- What can be done to a receiver. -/
inductive Call where
  | feed (byte : UInt8)
  | reset

def call (receiver : Receiver) : Call → Receiver
  | .feed byte => (receiver.feed byte).1
  | .reset => receiver.reset

/-- The state that calls lead to from the beginning. -/
def after (calls : List Call) : Receiver :=
  calls.foldl call .idle

theorem after_concat (calls : List Call) (last : Call) :
    after (calls ++ [last]) = (after calls).call last := by
  rw [after, List.foldl_append]
  rfl

theorem bounded_after (calls : List Call) : (after calls).Bounded := by
  induction calls using List.reverseRecOn with
  | nil => trivial
  | append_singleton calls last ih =>
      rw [after_concat]
      cases last with
      | feed byte => exact ih.feed byte
      | reset => trivial

/-- The bytes that a receiver holds are the last ones that it was fed. -/
theorem exists_eq_append_begun (calls : List Call) :
    ∃ earlier, calls = earlier ++ (after calls).begun.map .feed ∧ after earlier = .idle := by
  induction calls using List.reverseRecOn with
  | nil => exact ⟨[], rfl, rfl⟩
  | append_singleton calls last ih =>
      have hidle : after (calls ++ [last]) = .idle →
          ∃ earlier, calls ++ [last] = earlier ++ (after (calls ++ [last])).begun.map .feed ∧
            after earlier = .idle := by
        intro hidle
        refine ⟨calls ++ [last], ?_, hidle⟩
        rw [hidle]
        simp [begun]
      cases last with
      | reset =>
          apply hidle
          rw [after_concat]
          rfl
      | feed byte =>
          have heffect := effect_feed (bounded_after calls) byte
          rw [after_concat, call] at hidle ⊢
          generalize (after calls).feed byte = result at heffect hidle ⊢
          cases heffect with
          | skipped => exact hidle rfl
          | completed => exact hidle rfl
          | refused => exact hidle rfl
          | taken hbegun =>
              obtain ⟨earlier, hcalls, hearlier⟩ := ih
              refine ⟨earlier, ?_, hearlier⟩
              rw [hbegun, List.map_append, ← List.append_assoc, ← hcalls]
              rfl

/-- Whatever a receiver was fed and however often it was reset before: it never collects more than
was announced, nor is more announced than a packet can hold, so there is room for every byte.  If it
yields a packet, the last bytes that it was fed are that packet, all of them since it last yielded a
packet, refused a byte or was reset.  And whenever it yields a packet or refuses a byte it is as it
was in the beginning. -/
theorem feed_sound (calls : List Call) (byte : UInt8) :
    (after calls).Bounded ∧
    (∀ announced kind collected, after calls = .inPayload announced kind collected →
      collect collected byte = collected ++ [byte]) ∧
    (∀ packet, ((after calls).feed byte).2 = .ok (some packet) →
      packet.payload.length ≤ payloadLimit ∧
      ∃ earlier, calls ++ [.feed byte] = earlier ++ packet.encode.map .feed ∧
        (run packet.encode (after earlier)).2 = receptionsOf packet) ∧
    (((after calls).feed byte).2 ≠ .ok none → ((after calls).feed byte).1 = .idle) := by
  have hbounded := bounded_after calls
  refine ⟨hbounded, ?_, ?_, idle_of_feed hbounded⟩
  · intro announced kind collected hcalls
    rw [hcalls] at hbounded
    exact hbounded.collect_eq byte
  · intro packet hpacket
    obtain ⟨hencode, hfits⟩ := encode_eq_of_feed hbounded hpacket
    obtain ⟨earlier, hcalls, hearlier⟩ := exists_eq_append_begun calls
    refine ⟨hfits, earlier, ?_, ?_⟩
    · rw [hencode, List.map_append, ← List.append_assoc, ← hcalls]
      rfl
    · rw [hearlier, run_encode hfits]

/-- What was collected of a packet that a reset cut off is no part of the one that follows it. -/
theorem feed_sound_after_reset :
    let calls : List Call := [startByte, 2, 1, 7].map .feed ++ .reset ::
      [startByte, 1, 1, startByte].map .feed
    let packet : Packet := { kind := 1, payload := [startByte] }
    ((after calls).feed startByte).2 = .ok (some packet) ∧
      ∃ earlier, calls ++ [.feed startByte] = earlier ++ packet.encode.map .feed ∧
        (run packet.encode (after earlier)).2 = receptionsOf packet := by
  intro calls packet
  have hpacket : ((after calls).feed startByte).2 = .ok (some packet) := by decide
  exact ⟨hpacket, ((feed_sound calls startByte).2.2.1 packet hpacket).2⟩

end SplitPanel.Link.Receiver

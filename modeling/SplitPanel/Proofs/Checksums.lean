import SplitPanel.Proofs.Reception

/-!
# What a checksum detects

The exclusive or of all bytes of a packet is the start byte, whatever the packet holds.  So a run of
bytes with the length of a packet is taken for one exactly if the exclusive or of all that was
altered on the way is zero, and a single altered byte never goes unnoticed.
-/

namespace SplitPanel.Link

/-- The exclusive or of all bytes. -/
def parity (bytes : List UInt8) : UInt8 :=
  bytes.foldr (· ^^^ ·) 0

theorem parity_cons (byte : UInt8) (rest : List UInt8) :
    parity (byte :: rest) = byte ^^^ parity rest := rfl

theorem parity_append (first second : List UInt8) :
    parity (first ++ second) = parity first ^^^ parity second := by
  induction first with
  | nil => exact UInt8.zero_xor.symm
  | cons byte rest ih => rw [List.cons_append, parity_cons, parity_cons, ih, UInt8.xor_assoc]

theorem parity_set {bytes : List UInt8} {place : ℕ} (hplace : place < bytes.length)
    (byte : UInt8) : parity (bytes.set place byte) ^^^ bytes[place] = parity bytes ^^^ byte := by
  induction bytes generalizing place with
  | nil => contradiction
  | cons first rest ih =>
      cases place with
      | zero =>
          rw [List.set_cons_zero, parity_cons, parity_cons, List.getElem_cons_zero]
          ac_rfl
      | succ place =>
          rw [List.set_cons_succ, parity_cons, parity_cons, List.getElem_cons_succ,
            UInt8.xor_assoc, ih, UInt8.xor_assoc]

/-- What was done to every byte on the way. -/
def alterations (sent received : List UInt8) : List UInt8 :=
  sent.zipWith (· ^^^ ·) received

theorem parity_alterations {sent received : List UInt8} (hlength : received.length = sent.length) :
    parity (alterations sent received) = parity sent ^^^ parity received := by
  induction sent generalizing received with
  | nil =>
      rw [List.length_eq_zero_iff.mp hlength]
      rfl
  | cons byte rest ih =>
      cases received with
      | nil => contradiction
      | cons other others =>
          have hrest := ih (Nat.succ.inj hlength)
          rw [alterations] at hrest ⊢
          rw [List.zipWith_cons_cons, parity_cons, parity_cons, parity_cons, hrest]
          ac_rfl

theorem foldl_xor (bytes : List UInt8) (start : UInt8) :
    bytes.foldl (· ^^^ ·) start = start ^^^ parity bytes := by
  induction bytes generalizing start with
  | nil => exact UInt8.xor_zero.symm
  | cons byte rest ih => rw [List.foldl_cons, ih, parity_cons, UInt8.xor_assoc]

theorem checksum_eq_parity (length kind : UInt8) (payload : List UInt8) :
    checksum length kind payload = parity (length :: kind :: payload) := by
  rw [checksum, foldl_xor, parity_cons, parity_cons, UInt8.xor_assoc]

/-- A checksum makes up for all that stands between it and the start byte. -/
theorem parity_eq_startByte_iff {length kind last : UInt8} {payload : List UInt8} :
    parity (startByte :: length :: kind :: (payload ++ [last])) = startByte ↔
      last = checksum length kind payload := by
  have hparity : parity (startByte :: length :: kind :: (payload ++ [last])) =
      startByte ^^^ (checksum length kind payload ^^^ last) := by
    rw [checksum_eq_parity, ← List.cons_append, ← List.cons_append, parity_cons, parity_append]
    exact congrArg _ (congrArg _ UInt8.xor_zero)
  calc parity (startByte :: length :: kind :: (payload ++ [last])) = startByte
      ↔ startByte ^^^ (checksum length kind payload ^^^ last) = startByte ^^^ 0 := by
        rw [hparity, UInt8.xor_zero]
    _ ↔ checksum length kind payload ^^^ last = 0 := UInt8.xor_right_inj _
    _ ↔ checksum length kind payload = last := UInt8.xor_eq_zero_iff
    _ ↔ last = checksum length kind payload := eq_comm

theorem parity_encode (packet : Packet) : parity packet.encode = startByte :=
  parity_eq_startByte_iff.mpr rfl

namespace Receiver

/-- Nothing comes of the bytes of a packet but of the last one. -/
def atLast (packet : Packet) (reception : Reception) : List Reception :=
  List.replicate (packet.payload.length + 3) (.ok none) ++ [reception]

theorem run_withLast {packet : Packet} (hfits : packet.payload.length ≤ payloadLimit)
    (last : UInt8) :
    run (startByte :: UInt8.ofNat packet.payload.length :: packet.kind ::
        (packet.payload ++ [last])) .idle =
      (.idle, atLast packet
        (if last = checksum (UInt8.ofNat packet.payload.length) packet.kind packet.payload then
          .ok (some packet) else .error .invalidChecksum)) := by
  have hbytes : startByte :: UInt8.ofNat packet.payload.length :: packet.kind ::
      (packet.payload ++ [last]) =
      (startByte :: UInt8.ofNat packet.payload.length :: packet.kind :: packet.payload) ++
        [last] := rfl
  rw [hbytes, run_concat, run_upToChecksum packet.kind hfits, feed]
  split <;> rfl

/-- Whatever was altered behind its length, as many bytes as a packet has are a kind, a payload as
long as it was, and a last byte. -/
theorem exists_arrived {packet : Packet} {received : List UInt8}
    (hlength : received.length = packet.encode.length)
    (hhead : received.take 2 = packet.encode.take 2) :
    ∃ arrived : Packet, ∃ last, arrived.payload.length = packet.payload.length ∧
      received = startByte :: UInt8.ofNat arrived.payload.length :: arrived.kind ::
        (arrived.payload ++ [last]) := by
  rw [Packet.length_encode] at hlength
  match received with
  | [] | [_] | [_, _] => simp [overhead] at hlength
  | first :: length :: kind :: rest =>
      rcases rest.eq_nil_or_concat with rfl | ⟨payload, last, rfl⟩
      · simp [overhead] at hlength
      · have hpayload : payload.length = packet.payload.length := by
          simpa [overhead] using hlength
        have hfront : first = startByte ∧ length = UInt8.ofNat packet.payload.length := by
          simpa [Packet.encode] using hhead
        refine ⟨{ kind, payload }, last, hpayload, ?_⟩
        rw [hfront.1, hfront.2, hpayload, List.concat_eq_append]

section Altered

variable {packet : Packet} {received : List UInt8}
  (hfits : packet.payload.length ≤ payloadLimit)
  (hlength : received.length = packet.encode.length)
  (hhead : received.take 2 = packet.encode.take 2)
include hfits hlength hhead

/-- The alterations make up for each other. -/
theorem run_of_even (heven : parity (alterations packet.encode received) = 0) :
    ∃ arrived : Packet, arrived.encode = received ∧
      run received .idle = (.idle, receptionsOf arrived) := by
  obtain ⟨arrived, last, hsize, rfl⟩ := exists_arrived hlength hhead
  rw [parity_alterations hlength, UInt8.xor_eq_zero_iff, parity_encode, eq_comm,
    parity_eq_startByte_iff] at heven
  have hencode : arrived.encode = startByte :: UInt8.ofNat arrived.payload.length ::
      arrived.kind :: (arrived.payload ++ [last]) := by
    rw [heven]
    rfl
  refine ⟨arrived, hencode, ?_⟩
  rw [← hencode]
  exact run_encode (hsize.trans_le hfits)

theorem run_of_odd (hodd : parity (alterations packet.encode received) ≠ 0) :
    run received .idle = (.idle, atLast packet (.error .invalidChecksum)) := by
  obtain ⟨arrived, last, hsize, rfl⟩ := exists_arrived hlength hhead
  rw [parity_alterations hlength, Ne, UInt8.xor_eq_zero_iff, parity_encode, eq_comm,
    parity_eq_startByte_iff] at hodd
  rw [run_withLast (hsize.trans_le hfits), if_neg hodd, atLast, hsize, atLast]

end Altered

/-- Nothing is known before the last byte of a packet.  The packet is yielded if the last byte is
the exclusive or of all bytes behind the start byte, and refused otherwise.  So if bytes behind the
length were altered on the way, a packet is yielded exactly if the exclusive or of all alterations
is zero.  A single altered byte is always detected. -/
theorem checksum_exact {packet : Packet} (hfits : packet.payload.length ≤ payloadLimit) :
    (∀ last, run (startByte :: UInt8.ofNat packet.payload.length :: packet.kind ::
        (packet.payload ++ [last])) .idle =
      (.idle, atLast packet
        (if last = parity (UInt8.ofNat packet.payload.length :: packet.kind :: packet.payload) then
          .ok (some packet) else .error .invalidChecksum))) ∧
    (∀ received : List UInt8, received.length = packet.encode.length →
      received.take 2 = packet.encode.take 2 →
      (parity (alterations packet.encode received) = 0 → ∃ arrived : Packet,
        arrived.encode = received ∧ run received .idle = (.idle, receptionsOf arrived)) ∧
      (parity (alterations packet.encode received) ≠ 0 →
        run received .idle = (.idle, atLast packet (.error .invalidChecksum)))) ∧
    (∀ place byte, (hplace : place < packet.encode.length) → 2 ≤ place →
      byte ≠ packet.encode[place] →
      run (packet.encode.set place byte) .idle =
        (.idle, atLast packet (.error .invalidChecksum))) := by
  refine ⟨?_, ?_, ?_⟩
  · intro last
    rw [← checksum_eq_parity]
    exact run_withLast hfits last
  · intro received hlength hhead
    exact ⟨run_of_even hfits hlength hhead, run_of_odd hfits hlength hhead⟩
  · intro place byte hplace hbehind hbyte
    have hlength : (packet.encode.set place byte).length = packet.encode.length :=
      List.length_set
    have hhead : (packet.encode.set place byte).take 2 = packet.encode.take 2 :=
      List.take_set_of_le hbehind
    apply run_of_odd hfits hlength hhead
    rw [parity_alterations hlength, Ne, UInt8.xor_eq_zero_iff]
    intro hparity
    have hset := parity_set hplace byte
    rw [hparity, UInt8.xor_right_inj] at hset
    exact hbyte hset.symm

/-- Two bytes altered in the same way make a start byte of the kind and go unnoticed, and one of
them alone is detected. -/
theorem checksum_exact_of_two_alterations :
    let packet : Packet := { kind := 1, payload := [9, 9] }
    let received : List UInt8 := [startByte, 2, startByte, 0xAD, 9, 3]
    packet.encode = [startByte, 2, 1, 9, 9, 3] ∧
      parity (alterations packet.encode received) = 0 ∧
      (∃ arrived : Packet, arrived.encode = received ∧
        run received .idle = (.idle, receptionsOf arrived)) ∧
      run (packet.encode.set 2 startByte) .idle =
        (.idle, atLast packet (.error .invalidChecksum)) := by
  intro packet received
  have hfits : packet.payload.length ≤ payloadLimit := by decide
  have heven : parity (alterations packet.encode received) = 0 := by decide
  obtain ⟨-, haltered, hsingle⟩ := checksum_exact hfits
  refine ⟨by decide, heven, (haltered received rfl rfl).1 heven, ?_⟩
  exact hsingle 2 startByte (by decide) le_rfl (by decide)

end Receiver

end SplitPanel.Link

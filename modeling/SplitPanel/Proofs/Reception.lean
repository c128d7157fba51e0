import Mathlib.Data.List.Basic
import Mathlib.Order.Lattice
import SplitPanel.Link.Receiver

/-!
# Receiving a packet

An idle receiver that is given the bytes of a packet reports nothing up to the checksum, the
packet at the checksum, and is idle again.  What one byte leads to is therefore known from its
place in the packet, however much of the packet has arrived by then, and whatever the payload
holds: start bytes in it are bytes like any other.
-/

namespace SplitPanel.Link.Receiver

@[simp]
theorem length_run (bytes : List UInt8) (receiver : Receiver) :
    (run bytes receiver).2.length = bytes.length := by
  induction bytes generalizing receiver with
  | nil => rfl
  | cons byte rest ih => simp [run, ih]

theorem run_cons (byte : UInt8) (rest : List UInt8) (receiver : Receiver) :
    run (byte :: rest) receiver =
      ((run rest (receiver.feed byte).1).1,
        (receiver.feed byte).2 :: (run rest (receiver.feed byte).1).2) := rfl

theorem run_concat (bytes : List UInt8) (byte : UInt8) (receiver : Receiver) :
    run (bytes ++ [byte]) receiver =
      (((run bytes receiver).1.feed byte).1,
        (run bytes receiver).2 ++ [((run bytes receiver).1.feed byte).2]) := by
  rw [run_append]
  rfl

/-- The last payload bytes of a packet are collected behind the ones before them. -/
theorem run_inPayload {announced : UInt8} (kind : UInt8) {rest : List UInt8}
    (hrest : rest ≠ []) (collected : List UInt8)
    (hlength : collected.length + rest.length = announced.toNat)
    (hlimit : announced.toNat ≤ payloadLimit) :
    run rest (.inPayload announced kind collected) =
      (.atChecksum announced kind (collected ++ rest),
        List.replicate rest.length (.ok none)) := by
  induction rest generalizing collected with
  | nil => exact absurd rfl hrest
  | cons byte rest ih =>
      rw [List.length_cons] at hlength
      have hroom : collected.length < payloadLimit := by omega
      have hcollect : collect collected byte = collected ++ [byte] := if_pos hroom
      by_cases hlast : rest = []
      · subst hlast
        have hdone : (collected ++ [byte]).length = announced.toNat := by simpa using hlength
        simp only [run_cons, feed, hcollect, if_pos hdone]
        rfl
      · have hmore : (collected ++ [byte]).length ≠ announced.toNat := by
          have hpos : 0 < rest.length := List.length_pos_iff.mpr hlast
          rw [List.length_append, List.length_singleton]
          omega
        have hnext : (collected ++ [byte]).length + rest.length = announced.toNat := by
          rw [List.length_append, List.length_singleton]
          omega
        have hrun := ih hlast (collected ++ [byte]) hnext
        simp only [run_cons, feed, hcollect, if_neg hmore, hrun]
        simp [List.replicate_succ]

/-- Up to the checksum a packet is collected without a report. -/
theorem run_upToChecksum (kind : UInt8) {payload : List UInt8}
    (hfits : payload.length ≤ payloadLimit) :
    run (startByte :: UInt8.ofNat payload.length :: kind :: payload) .idle =
      (.atChecksum (UInt8.ofNat payload.length) kind payload,
        List.replicate (payload.length + 3) (.ok none)) := by
  have hsmall : payload.length < 256 := lt_of_le_of_lt hfits (by decide)
  have hnat : (UInt8.ofNat payload.length).toNat = payload.length := by
    rw [UInt8.toNat_ofNat']
    exact Nat.mod_eq_of_lt hsmall
  have hlimit : (UInt8.ofNat payload.length).toNat ≤ payloadLimit := by
    rw [hnat]
    exact hfits
  have hlength : feed (UInt8.ofNat payload.length) .atLength =
      (.atKind (UInt8.ofNat payload.length), .ok none) := if_neg (Nat.not_lt.mpr hlimit)
  by_cases hempty : payload = []
  · subst hempty
    rfl
  · have hpos : 0 < payload.length := List.length_pos_iff.mpr hempty
    have hannounced : UInt8.ofNat payload.length ≠ 0 := by
      intro hzero
      rw [hzero] at hnat
      exact absurd hnat.symm hpos.ne'
    have hkind : feed kind (.atKind (UInt8.ofNat payload.length)) =
        (.inPayload (UInt8.ofNat payload.length) kind [], .ok none) := by
      rw [feed, if_neg hannounced]
    have hstart : feed startByte .idle = (.atLength, .ok none) := rfl
    have hrun := run_inPayload kind hempty [] (by simp [hnat]) hlimit
    simp only [run_cons, hstart, hlength, hkind, hrun, List.nil_append, List.replicate_succ]

/-- What the bytes of one packet lead to. -/
def receptionsOf (packet : Packet) : List Reception :=
  List.replicate (packet.payload.length + 3) (.ok none) ++ [.ok (some packet)]

theorem run_encode {packet : Packet} (hfits : packet.payload.length ≤ payloadLimit) :
    run packet.encode .idle = (.idle, receptionsOf packet) := by
  have hchecksum : feed (checksum (UInt8.ofNat packet.payload.length) packet.kind packet.payload)
      (.atChecksum (UInt8.ofNat packet.payload.length) packet.kind packet.payload) =
      (.idle, .ok (some packet)) := if_pos rfl
  have hbytes : packet.encode =
      (startByte :: UInt8.ofNat packet.payload.length :: packet.kind :: packet.payload) ++
        [checksum (UInt8.ofNat packet.payload.length) packet.kind packet.payload] := rfl
  rw [hbytes, run_concat, run_upToChecksum packet.kind hfits, hchecksum, receptionsOf]

/-- A byte in the middle of a packet leads to nothing yet, the last one to the packet. -/
theorem feed_of_encode_eq {packet : Packet} (hfits : packet.payload.length ≤ payloadLimit)
    {begun left : List UInt8} {byte : UInt8} (hencode : packet.encode = begun ++ byte :: left) :
    ((run begun .idle).1.feed byte).2 =
      if left = [] then .ok (some packet) else .ok none := by
  have hrun := congrArg Prod.snd (run_encode hfits)
  have hlength := congrArg List.length hencode
  rw [hencode, run_append, run_cons] at hrun
  have hplace := congrArg (fun receptions => receptions[begun.length]?) hrun
  simp only [List.getElem?_append_right, length_run, le_refl, Nat.sub_self,
    List.getElem?_cons_zero] at hplace
  rw [Packet.length_encode, List.length_append, List.length_cons] at hlength
  split
  · next hlast =>
    have hend : begun.length = packet.payload.length + 3 := by
      simp only [hlast, List.length_nil, overhead] at hlength
      omega
    simpa [receptionsOf, hend] using hplace
  · next hmore =>
    have hpos : 0 < left.length := List.length_pos_iff.mpr hmore
    have hmiddle : begun.length < packet.payload.length + 3 := by
      simp only [overhead] at hlength
      omega
    simpa [receptionsOf, List.getElem?_append_left, hmiddle] using hplace

end SplitPanel.Link.Receiver

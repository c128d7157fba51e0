import Mathlib.Data.List.Basic
import Mathlib.Order.Lattice
import SplitPanel.Wire.TagEvent

/-!
# The bytes of a frame

A frame keeps a whole report, of which the first bytes count.  Every way to make or change a
frame leaves nothing but zeros behind the bytes that count, so a frame is determined by those
bytes, and letting the rest of its report count adds nothing but zeros.
-/

namespace SplitPanel

namespace Report

@[simp]
theorem getElem_ofBytes (bytes : List UInt8) (index : ℕ) (hindex : index < reportSize) :
    (ofBytes bytes)[index] = bytes.getD index 0 := by
  simp [ofBytes]

/-- A short text of bytes is filled up with zeros. -/
theorem toList_ofBytes {bytes : List UInt8} (hlength : bytes.length ≤ reportSize) :
    (ofBytes bytes).toList = bytes ++ List.replicate (reportSize - bytes.length) 0 := by
  apply List.ext_getElem
  · simp
    omega
  · intro index hleft hright
    have hindex : index < reportSize := by simpa using hleft
    rw [Vector.getElem_toList, getElem_ofBytes, List.getD_eq_getElem?_getD]
    by_cases hbytes : index < bytes.length
    · simp [hbytes]
    · rw [List.getElem?_eq_none (by omega), List.getElem_append_right (by omega)]
      simp

/-- A full report is not changed by filling it up. -/
@[simp]
theorem ofBytes_toList (report : Report) : ofBytes report.toList = report := by
  apply Vector.ext
  intro index hindex
  simp [List.getD_eq_getElem?_getD, hindex]

end Report

namespace Frame

/-- Between 1 and 32 bytes count, and behind them there are only zeros. -/
structure WellFormed (frame : Frame) : Prop where
  length_pos : 0 < frame.length
  length_le : frame.length ≤ reportSize
  zero_behind : ∀ index : Fin reportSize, frame.length ≤ index.val → frame.report[index] = 0

/-- The byte of a report of the keyboard that says how a request went. -/
def verdictByte (frame : Frame) : UInt8 :=
  frame.report.get 0

/-- The byte of a report of the keyboard that tells responses from events. -/
def kindByte (frame : Frame) : UInt8 :=
  frame.report.get 1

/-- The byte of a request that names the command. -/
def commandByte (frame : Frame) : UInt8 :=
  frame.report.get 2

/-- The byte of a request that names the screen. -/
def screenByte (frame : Frame) : UInt8 :=
  frame.report.get 3

/-- Every way a frame comes about. -/
inductive Built : Frame → Prop where
  | ofBytes {bytes : List UInt8} {frame : Frame} (h : Frame.ofBytes bytes = .ok frame) :
      Built frame
  | ofPrefix {bytes : List UInt8} {frame : Frame} (h : Frame.ofPrefix bytes = .ok frame) :
      Built frame
  | zeros : Built Frame.zeros
  | ofReport (report : Report) : Built (Frame.ofReport report)
  | ofParts (header : Vector UInt8 headerSize) (payload : List UInt8) :
      Built (Frame.ofParts header payload)
  | ofEvent (id : EventCode) (arguments : List UInt8) : Built (frameOfEvent id arguments)
  | markResponse {frame : Frame} (code : Verdict) (h : Built frame) :
      Built (frame.markResponse code)
  | markResult {frame : Frame} (code : Verdict) (h : Built frame) :
      Built (frame.markResult code)
  | putPayload {frame : Frame} (payload : List UInt8) (h : Built frame) :
      Built (frame.putPayload payload)
  | padded {frame : Frame} (h : Built frame) : Built frame.padded

/-! ## What the operations do to the length and to the report -/

@[simp]
theorem length_markResponse (code : Verdict) (frame : Frame) :
    (frame.markResponse code).length = frame.length := by
  rw [markResponse]
  split <;> rfl

@[simp]
theorem length_markResult (code : Verdict) (frame : Frame) :
    (frame.markResult code).length = frame.length := by
  rw [markResult]
  split <;> rfl

@[simp]
theorem length_padded (frame : Frame) : frame.padded.length = reportSize := rfl

@[simp]
theorem report_padded (frame : Frame) : frame.padded.report = frame.report := rfl

@[simp]
theorem commandByte_padded (frame : Frame) : frame.padded.commandByte = frame.commandByte := rfl

@[simp]
theorem screenByte_padded (frame : Frame) : frame.padded.screenByte = frame.screenByte := rfl

theorem length_putPayload (payload : List UInt8) (frame : Frame) :
    (frame.putPayload payload).length =
      max frame.length (headerSize + min maxPayload payload.length) := by
  simp [putPayload]

theorem length_bytes_le (frame : Frame) : frame.bytes.length ≤ reportSize := by
  rw [Frame.bytes, List.length_take, Vector.length_toList]
  exact min_le_right _ _

/-- A full report counts as a whole. -/
theorem bytes_ofReport (report : Report) : (ofReport report).bytes = report.toList := by
  apply List.take_of_length_le
  simp [ofReport]

theorem bytes_holding {bytes : List UInt8} (hlength : bytes.length ≤ reportSize) :
    (holding bytes).bytes = bytes := by
  rw [Frame.bytes, holding, Report.toList_ofBytes hlength]
  exact List.take_left

theorem bytes_padded (frame : Frame) : frame.padded.bytes = frame.report.toList :=
  bytes_ofReport frame.report

theorem request_of_header {frame : Frame} (hheader : headerSize ≤ frame.length) :
    frame.request = .ok {
      command := frame.commandByte
      screen := frame.screenByte
      payload := frame.bytes.drop headerSize } :=
  if_neg (Nat.not_lt.mpr hheader)

theorem request_of_short {frame : Frame} (hshort : frame.length < headerSize) :
    frame.request = .error .tooShort :=
  if_pos hshort

/-! ## The zero tail -/

theorem wellFormed_holding {bytes : List UInt8} (hpos : 0 < bytes.length)
    (hle : bytes.length ≤ reportSize) : (holding bytes).WellFormed where
  length_pos := hpos
  length_le := hle
  zero_behind index hindex := by
    have hnone : bytes[index.val]? = none := List.getElem?_eq_none hindex
    simp [holding, List.getD_eq_getElem?_getD, hnone]

/-- A full report has no tail. -/
theorem wellFormed_ofReport (report : Report) : (ofReport report).WellFormed where
  length_pos := Nat.zero_lt_succ 31
  length_le := le_refl reportSize
  zero_behind index hindex := absurd index.isLt (Nat.not_lt.mpr hindex)

theorem ofParts_eq_holding (header : Vector UInt8 headerSize) (payload : List UInt8) :
    ofParts header payload = holding (header.toList ++ payload.take maxPayload) := by
  simp [ofParts, holding]

theorem wellFormed_ofParts (header : Vector UInt8 headerSize) (payload : List UInt8) :
    (ofParts header payload).WellFormed := by
  have hlength : (header.toList ++ payload.take maxPayload).length =
      headerSize + min maxPayload payload.length := by
    simp
  rw [ofParts_eq_holding]
  apply wellFormed_holding <;> rw [hlength]
  · exact Nat.lt_add_right _ (Nat.zero_lt_succ 3)
  · exact Nat.add_le_add_left (min_le_left maxPayload _) headerSize

/-- The first two bytes of a frame that can carry a response are no part of its tail. -/
theorem WellFormed.set {frame : Frame} (hframe : frame.WellFormed)
    (hlength : minResponse ≤ frame.length) (place : Fin minResponse) (byte : UInt8) :
    WellFormed { frame with report := frame.report.set place.val byte } where
  length_pos := hframe.length_pos
  length_le := hframe.length_le
  zero_behind index hindex := by
    have hbehind : minResponse ≤ index.val := le_trans hlength hindex
    have hplace : place.val ≠ index.val := (lt_of_lt_of_le place.isLt hbehind).ne
    simpa [Vector.getElem_set, hplace] using hframe.zero_behind index hindex

theorem WellFormed.markResponse {frame : Frame} (hframe : frame.WellFormed) (code : Verdict) :
    (frame.markResponse code).WellFormed := by
  rw [Frame.markResponse]
  split
  · next hlength => exact (hframe.set hlength 0 code.toByte).set hlength 1 _
  · exact hframe

theorem WellFormed.markResult {frame : Frame} (hframe : frame.WellFormed) (code : Verdict) :
    (frame.markResult code).WellFormed := by
  rw [Frame.markResult]
  split
  · next hlength => exact hframe.set hlength 0 code.toByte
  · exact hframe

/-- A payload lands inside the bytes that count afterwards. -/
theorem WellFormed.putPayload {frame : Frame} (hframe : frame.WellFormed)
    (payload : List UInt8) : (frame.putPayload payload).WellFormed where
  length_pos := by
    rw [length_putPayload]
    exact lt_of_lt_of_le hframe.length_pos (le_max_left _ _)
  length_le := by
    rw [length_putPayload]
    apply max_le hframe.length_le
    exact Nat.add_le_add_left (min_le_left maxPayload _) headerSize
  zero_behind index hindex := by
    rw [length_putPayload] at hindex
    have hkept : (payload.take maxPayload)[index.val - headerSize]? = none := by
      apply List.getElem?_eq_none
      rw [List.length_take]
      exact Nat.le_sub_of_add_le' (le_trans (le_max_right _ _) hindex)
    have hold : frame.report[index] = 0 :=
      hframe.zero_behind index (le_trans (le_max_left _ _) hindex)
    simpa [Frame.putPayload, hkept] using hold

theorem WellFormed.padded {frame : Frame} (_ : frame.WellFormed) : frame.padded.WellFormed :=
  wellFormed_ofReport frame.report

/-- Every frame that can come about is well formed. -/
theorem Built.wellFormed {frame : Frame} (hframe : frame.Built) : frame.WellFormed := by
  induction hframe with
  | @ofBytes bytes frame h =>
      rw [Frame.ofBytes] at h
      split at h
      · contradiction
      · next hempty =>
        split at h
        · contradiction
        · next hlong =>
          injection h with h
          subst h
          have hpos : 0 < bytes.length := by
            rw [List.length_pos_iff]
            simpa using hempty
          exact wellFormed_holding hpos (Nat.not_lt.mp hlong)
  | @ofPrefix bytes frame h =>
      rw [Frame.ofPrefix] at h
      split at h
      · contradiction
      · next hempty =>
        injection h with h
        subst h
        have hpos : 0 < bytes.length := by
          rw [List.length_pos_iff]
          simpa using hempty
        apply wellFormed_holding <;> rw [List.length_take]
        · exact lt_min (Nat.zero_lt_succ 31) hpos
        · exact min_le_left reportSize _
  | zeros => exact wellFormed_ofReport _
  | ofReport report => exact wellFormed_ofReport report
  | ofParts header payload => exact wellFormed_ofParts header payload
  | ofEvent id arguments => exact wellFormed_ofReport _
  | markResponse code _ ih => exact ih.markResponse code
  | markResult code _ ih => exact ih.markResult code
  | putPayload payload _ ih => exact ih.putPayload payload
  | padded _ ih => exact ih.padded

theorem WellFormed.length_bytes {frame : Frame} (hframe : frame.WellFormed) :
    frame.bytes.length = frame.length := by
  rw [bytes, List.length_take, Vector.length_toList]
  exact min_eq_left hframe.length_le

/-- The report of a well formed frame is its bytes, filled up with zeros. -/
theorem WellFormed.ofBytes_bytes {frame : Frame} (hframe : frame.WellFormed) :
    Report.ofBytes frame.bytes = frame.report := by
  apply Vector.ext
  intro index hindex
  rw [Report.getElem_ofBytes, List.getD_eq_getElem?_getD, bytes, List.getElem?_take]
  split
  · simp [hindex]
  · next hlength =>
    exact (hframe.zero_behind ⟨index, hindex⟩ (Nat.not_lt.mp hlength)).symm

/-- Bytes that do not count are zero. -/
theorem WellFormed.getD_bytes {frame : Frame} (hframe : frame.WellFormed) {index : ℕ}
    (hindex : index < reportSize) : frame.bytes.getD index 0 = frame.report[index] := by
  rw [← Report.getElem_ofBytes frame.bytes index hindex]
  simp only [hframe.ofBytes_bytes]

/-- Letting the whole report count adds zeros to the bytes. -/
theorem WellFormed.bytes_padded {frame : Frame} (hframe : frame.WellFormed) :
    frame.padded.bytes =
      frame.bytes ++ List.replicate (reportSize - frame.length) 0 := by
  have hle : frame.bytes.length ≤ reportSize := by
    rw [hframe.length_bytes]
    exact hframe.length_le
  rw [Frame.bytes_padded, ← hframe.ofBytes_bytes, Report.toList_ofBytes hle,
    hframe.length_bytes]

end Frame

end SplitPanel

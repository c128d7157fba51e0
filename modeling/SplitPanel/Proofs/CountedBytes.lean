import SplitPanel.Proofs.FrameBytes

/-!
# Bytes that count

A frame that has come about can be marked, given a payload or padded, any number of times.  None of
this makes it shorter, and none of it leaves anything but zeros behind the bytes that count.  So two
frames with the same bytes are the same frame, the report that is sent has nothing in it that
was not meant to be sent, and a request is read from exactly the bytes that count.
-/

namespace SplitPanel.Frame

/-- What can be done to a frame. -/
inductive Edit where
  | markResponse (code : Verdict)
  | markResult (code : Verdict)
  | putPayload (payload : List UInt8)
  | padded
deriving DecidableEq, Repr

def edit (frame : Frame) : Edit → Frame
  | .markResponse code => frame.markResponse code
  | .markResult code => frame.markResult code
  | .putPayload payload => frame.putPayload payload
  | .padded => frame.padded

/-- Does one thing after the other to a frame. -/
def editAll (edits : List Edit) (frame : Frame) : Frame :=
  edits.foldl edit frame

variable {frame other : Frame}

/-! ## Frames that are changed -/

theorem Built.edit (hframe : frame.Built) (edit : Edit) : (frame.edit edit).Built := by
  cases edit with
  | markResponse code => exact .markResponse code hframe
  | markResult code => exact .markResult code hframe
  | putPayload payload => exact .putPayload payload hframe
  | padded => exact .padded hframe

theorem Built.editAll (hframe : frame.Built) (edits : List Edit) :
    (frame.editAll edits).Built := by
  induction edits generalizing frame with
  | nil => exact hframe
  | cons edit rest ih => exact ih (hframe.edit edit)

theorem WellFormed.length_le_length_edit (hframe : frame.WellFormed) (edit : Edit) :
    frame.length ≤ (frame.edit edit).length := by
  cases edit with
  | markResponse code => exact (length_markResponse code frame).ge
  | markResult code => exact (length_markResult code frame).ge
  | putPayload payload =>
      apply le_trans (le_max_left _ _)
      exact (length_putPayload payload frame).ge
  | padded => exact hframe.length_le

theorem Built.length_le_length_editAll (hframe : frame.Built) (edits : List Edit) :
    frame.length ≤ (frame.editAll edits).length := by
  induction edits generalizing frame with
  | nil => exact le_rfl
  | cons edit rest ih =>
      calc frame.length ≤ (frame.edit edit).length := hframe.wellFormed.length_le_length_edit edit
        _ ≤ ((frame.edit edit).editAll rest).length := ih (hframe.edit edit)

/-! ## What the bytes determine -/

theorem WellFormed.toList_report (hframe : frame.WellFormed) :
    frame.report.toList = frame.bytes ++ List.replicate (reportSize - frame.length) 0 := by
  rw [← Frame.bytes_padded, hframe.bytes_padded]

theorem WellFormed.eq_iff_bytes_eq (hframe : frame.WellFormed) (hother : other.WellFormed) :
    frame = other ↔ frame.bytes = other.bytes := by
  constructor
  · intro hsame
    rw [hsame]
  · intro hbytes
    have hreport : frame.report = other.report := by
      rw [← hframe.ofBytes_bytes, ← hother.ofBytes_bytes, hbytes]
    have hlength : frame.length = other.length := by
      rw [← hframe.length_bytes, ← hother.length_bytes, hbytes]
    calc frame = ⟨frame.report, frame.length⟩ := rfl
      _ = ⟨other.report, other.length⟩ := by rw [hreport, hlength]
      _ = other := rfl

theorem request_eq_tooShort_iff :
    frame.request = .error .tooShort ↔ frame.length < headerSize := by
  constructor
  · intro hrequest
    apply Nat.lt_of_not_le
    intro hheader
    rw [request_of_header hheader] at hrequest
    contradiction
  · exact request_of_short

/-- However a frame came about and whatever was done to it after that: it has between 1 and 32
bytes that count, as many as before or more, and only zeros behind them.  The bytes that count
determine the frame, its report is these bytes and zeros, and it can be read as a request exactly if
they go beyond the header, with a payload of all that do. -/
theorem determined_by_bytes (hframe : frame.Built) (edits : List Edit) :
    let last := frame.editAll edits
    (1 ≤ last.length ∧ last.length ≤ reportSize ∧
      ∀ index : Fin reportSize, last.length ≤ index.val → last.report.get index = 0) ∧
    (frame.length ≤ last.length ∧ ∀ more, last.length ≤ (last.editAll more).length) ∧
    (∀ {other : Frame}, other.Built → (last = other ↔ last.bytes = other.bytes)) ∧
    last.report.toList = last.bytes ++ List.replicate (reportSize - last.length) 0 ∧
    (last.request = .error .tooShort ↔ last.length < headerSize) ∧
    (headerSize ≤ last.length → ∃ request, last.request = .ok request ∧
      request.payload.length = last.length - headerSize) := by
  intro last
  have hbuilt : last.Built := hframe.editAll edits
  have hlast : last.WellFormed := hbuilt.wellFormed
  refine ⟨⟨hlast.length_pos, hlast.length_le, hlast.zero_behind⟩, ?_, ?_, hlast.toList_report,
    request_eq_tooShort_iff, ?_⟩
  · exact ⟨hframe.length_le_length_editAll edits, hbuilt.length_le_length_editAll⟩
  · intro other hother
    exact hlast.eq_iff_bytes_eq hother.wellFormed
  · intro hheader
    refine ⟨_, request_of_header hheader, ?_⟩
    dsimp only
    rw [List.length_drop, hlast.length_bytes]

/-- A frame without a whole header gets a payload, and then a result. -/
theorem determined_by_bytes_of_three_bytes :
    let frame := holding [9, 8, 7]
    let last := frame.editAll [.putPayload [5], .markResponse .failure]
    frame.Built ∧ frame.request = .error .tooShort ∧
      last.bytes = [1, 0, 7, 0, 5] ∧ frame.length ≤ last.length ∧
      last.report.toList = [1, 0, 7, 0, 5] ++ List.replicate 27 0 ∧
      ∃ request, last.request = .ok request ∧ request.payload.length = 1 := by
  intro frame last
  have hread : ofBytes [9, 8, 7] = .ok frame := rfl
  have hframe : frame.Built := .ofBytes hread
  obtain ⟨-, -, -, -, hshort, -⟩ := determined_by_bytes hframe []
  obtain ⟨-, ⟨hgrown, -⟩, -, hreport, -, hlong⟩ :=
    determined_by_bytes hframe [.putPayload [5], .markResponse .failure]
  have hbytes : last.bytes = [1, 0, 7, 0, 5] := by decide
  rw [show frame.editAll _ = last from rfl, hbytes] at hreport
  exact ⟨hframe, hshort.mpr (by decide), hbytes, hgrown, hreport, hlong (by decide)⟩

end SplitPanel.Frame

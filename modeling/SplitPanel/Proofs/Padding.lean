import SplitPanel.Proofs.Execution

/-!
# Zeros behind a frame

Hosts fill their reports up with zeros, and so does the outbox.  A station does not notice: the
text of a line ends at its first zero, no other command looks at its payload, and a response is
sent as a whole report anyway.  The one exception is a bare request to set a line, which has no
line number until a zero behind it counts as one.
-/

namespace SplitPanel

namespace Frame

theorem minResponse_le_length_padded (frame : Frame) : minResponse ≤ frame.padded.length :=
  show 2 ≤ 32 by decide

theorem headerSize_le_length_padded (frame : Frame) : headerSize ≤ frame.padded.length :=
  show 4 ≤ 32 by decide

/-! ## Responses of padded frames -/

theorem padded_markResponse {frame : Frame} (hlength : minResponse ≤ frame.length)
    (code : Verdict) :
    frame.padded.markResponse code = (frame.markResponse code).padded := by
  rw [markResponse, if_pos frame.minResponse_le_length_padded, markResponse, if_pos hlength]
  rfl

theorem padded_markResult {frame : Frame} (hlength : minResponse ≤ frame.length)
    (code : Verdict) :
    frame.padded.markResult code = (frame.markResult code).padded := by
  rw [markResult, if_pos frame.minResponse_le_length_padded, markResult, if_pos hlength]
  rfl

/-- A payload does not make a full report any longer. -/
theorem padded_putPayload (frame : Frame) (payload : List UInt8) :
    frame.padded.putPayload payload = (frame.putPayload payload).padded := by
  have hfits : headerSize + min maxPayload payload.length ≤ reportSize :=
    Nat.add_le_add_left (min_le_left maxPayload _) headerSize
  simp [putPayload, padded, max_eq_left hfits]

end Frame

namespace Station

variable {capacity : ℕ}

/-- A request to set a line of this screen that ends before the line number. -/
def IsBareLine (station : Station capacity) (frame : Frame) : Prop :=
  frame.length = headerSize ∧ frame.commandByte = Command.setLine.toByte ∧
    station.IsForHere frame

theorem isForOther_padded_iff (station : Station capacity) {frame : Frame}
    (hheader : headerSize ≤ frame.length) :
    station.IsForOther frame.padded ↔ station.IsForOther frame := by
  simp [IsForOther, hheader, frame.headerSize_le_length_padded, -Frame.length_padded]

theorem isForHere_padded_iff (station : Station capacity) {frame : Frame}
    (hheader : headerSize ≤ frame.length) :
    station.IsForHere frame.padded ↔ station.IsForHere frame := by
  simp [IsForHere, hheader, frame.headerSize_le_length_padded, -Frame.length_padded]

/-- The text of a line is not changed by zeros behind it. -/
theorem lineText_append_zeros (text : List UInt8) (count : ℕ) :
    lineText (text ++ List.replicate count 0) = lineText text := by
  induction text with
  | nil => cases count <;> simp [lineText, List.replicate_succ]
  | cons byte text ih =>
      by_cases hbyte : byte = 0
      · simp [lineText, hbyte]
      · simpa [lineText, hbyte] using ih

/-- No command notices zeros behind its payload, unless it misses a line number. -/
theorem runOnScreen_append_zeros {command : Command} {payload : List UInt8}
    (hline : command = .setLine → payload ≠ []) (count : ℕ)
    (screen : Screen.Buffers capacity) :
    runOnScreen command (payload ++ List.replicate count 0) screen =
      runOnScreen command payload screen := by
  cases command with
  | setUp => rfl
  | clear => rfl
  | present => rfl
  | setLine =>
      cases payload with
      | nil => exact absurd rfl (hline rfl)
      | cons line text =>
          rw [List.cons_append, runOnScreen, lineText_append_zeros]
          rfl

/-- A frame that is not a bare request to set a line has the same effect with zeros behind it. -/
theorem effectOf_padded {station : Station capacity} {frame : Frame}
    (hframe : frame.WellFormed) (hheader : headerSize ≤ frame.length)
    (hbare : ¬ station.IsBareLine frame) :
    station.effectOf frame.padded = station.effectOf frame := by
  by_cases hother : station.IsForOther frame
  · have hpadded := (station.isForOther_padded_iff hheader).mpr hother
    rw [effectOf_of_isForOther hpadded, effectOf_of_isForOther hother]
    have hmessage : Report.ofBytes frame.padded.bytes = Report.ofBytes frame.bytes := by
      rw [hframe.ofBytes_bytes, hframe.padded.ofBytes_bytes, Frame.report_padded]
    simp only [relay, Outbox.send, hmessage]
  by_cases hhere : station.IsForHere frame
  · have hpadded := (station.isForHere_padded_iff hheader).mpr hhere
    have hpayload : frame.padded.bytes.drop headerSize =
        frame.bytes.drop headerSize ++ List.replicate (reportSize - frame.length) 0 := by
      rw [hframe.bytes_padded, List.drop_append_of_le_length]
      rw [hframe.length_bytes]
      exact hheader
    rw [effectOf_of_isForHere hpadded, effectOf_of_isForHere hhere, Frame.commandByte_padded]
    cases hcommand : Command.ofByte? frame.commandByte with
    | none => rfl
    | some command =>
        have hline : command = .setLine → frame.bytes.drop headerSize ≠ [] := by
          rintro rfl hnil
          apply hbare
          have hshort : frame.bytes.length ≤ headerSize := List.drop_eq_nil_iff.mp hnil
          rw [hframe.length_bytes] at hshort
          exact ⟨le_antisymm hshort hheader, Command.ofByte?_eq_some_iff.mp hcommand, hhere⟩
        simp only [hpayload, runOnScreen_append_zeros hline]
  · have hotherPadded := (station.isForOther_padded_iff hheader).not.mpr hother
    have hherePadded := (station.isForHere_padded_iff hheader).not.mpr hhere
    rw [effectOf_of_unknownScreen hheader hother hhere,
      effectOf_of_unknownScreen frame.headerSize_le_length_padded hotherPadded hherePadded,
      Frame.screenByte_padded]

/-- Running a frame with zeros behind it gives the response with zeros behind it, and is no
different otherwise. -/
theorem run_padded_of_wellFormed {station : Station capacity} {frame : Frame}
    (hframe : frame.WellFormed) (hheader : headerSize ≤ frame.length)
    (hbare : ¬ station.IsBareLine frame) :
    station.run frame.padded =
      { station.run frame with response := (station.run frame).response.padded } := by
  have hlength : minResponse ≤ frame.length := le_trans (by decide) hheader
  have hfailed := Frame.padded_markResponse hlength .failure
  have heffect := effectOf_padded hframe hheader hbare
  cases hrun : station.effectOf frame with
  | error fault =>
      rw [hrun] at heffect
      rw [run_of_fault hlength hrun, run_of_fault frame.minResponse_le_length_padded heffect,
        hfailed]
  | ok effect =>
      rw [hrun] at heffect
      rw [run_of_effect hlength hrun, run_of_effect frame.minResponse_le_length_padded heffect,
        hfailed]
      have hmarked : minResponse ≤ (frame.markResponse .failure).length := by
        rw [Frame.length_markResponse]
        exact hlength
      have hanswered : answered effect.payload (frame.markResponse .failure).padded =
          (answered effect.payload (frame.markResponse .failure)).padded := by
        cases effect.payload with
        | none => rfl
        | some payload => exact Frame.padded_putPayload _ payload
      have hgrown : minResponse ≤
          (answered effect.payload (frame.markResponse .failure)).length := by
        cases effect.payload with
        | none => exact hmarked
        | some payload =>
            rw [answered, Frame.length_putPayload]
            exact le_trans hmarked (le_max_left _ _)
      rw [hanswered, Frame.padded_markResult hgrown]

/-- Zeros behind a frame with a header change nothing, unless they complete a bare request to
set a line: neither what is done nor the report that answers it.  So a frame that comes over
the link as a full report does at the slave half what the frame itself would have done. -/
theorem run_padded {station : Station capacity} {frame : Frame} (hframe : frame.Built)
    (hheader : headerSize ≤ frame.length) (hbare : ¬ station.IsBareLine frame) :
    (station.run frame.padded).outcome = (station.run frame).outcome ∧
    (station.run frame.padded).station = (station.run frame).station ∧
    (station.run frame.padded).response.report = (station.run frame).response.report ∧
    (station.role = .slave →
      station.runRelayed (Report.ofBytes frame.bytes).toList =
        ((station.run frame).station, (station.run frame).outcome)) := by
  have hpadded := run_padded_of_wellFormed hframe.wellFormed hheader hbare
  refine ⟨by rw [hpadded], by rw [hpadded], by rw [hpadded, Frame.report_padded], ?_⟩
  intro hrole
  have hreport : Frame.ofReport (Report.ofBytes frame.bytes) = frame.padded := by
    rw [hframe.wellFormed.ofBytes_bytes]
    rfl
  rw [runRelayed_of_slave hrole, hreport, hpadded]

/-- A line of two letters is set over the link as it would be by its own short frame. -/
theorem run_padded_line :
    let station : Station 8 := { role := .slave, screen := .cleared ⟨4, 2⟩, outbox := .empty }
    let frame := Frame.holding [2, 0, 2, 1, 1, 0x68, 0x69]
    (station.run frame.padded).outcome = .ok (.applied .setLine) ∧
      station.runRelayed (Report.ofBytes frame.bytes).toList =
        ((station.run frame).station, .ok (.applied .setLine)) := by
  intro station frame
  have hbuilt : frame.Built := .ofBytes (rfl : Frame.ofBytes [2, 0, 2, 1, 1, 0x68, 0x69] = _)
  have hheader : headerSize ≤ frame.length := by decide
  have hbare : ¬ station.IsBareLine frame := by
    rintro ⟨hlength, -, -⟩
    exact absurd hlength (by decide)
  have happlied : (station.run frame).outcome = .ok (.applied .setLine) := rfl
  have hpadded := run_padded hbuilt hheader hbare
  rw [happlied] at hpadded
  exact ⟨hpadded.1, hpadded.2.2.2 rfl⟩

end Station

end SplitPanel

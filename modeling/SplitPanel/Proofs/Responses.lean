import SplitPanel.Proofs.Execution
import SplitPanel.Wire.Response

/-!
# Responses of a station

A response says in its first two bytes how its request went and that it is a response, and is the
request as it came in all others.  Only a set-up that was run adds something, the columns and rows
of the screen.
-/

namespace SplitPanel

namespace Verdict

variable {ε α : Type} {result : Except ε α}

theorem ofExcept_eq_success_iff : ofExcept result = .success ↔ ∃ value, result = .ok value := by
  cases result <;> simp [ofExcept]

theorem ofExcept_eq_failure_iff : ofExcept result = .failure ↔ ∃ fault, result = .error fault := by
  cases result <;> simp [ofExcept]

theorem toByte_eq_zero_iff {code : Verdict} : code.toByte = 0 ↔ code = .success := by
  cases code <;> simp [toByte]

theorem toByte_eq_one_iff {code : Verdict} : code.toByte = 1 ↔ code = .failure := by
  cases code <;> simp [toByte]

end Verdict

/-- Reading accepts the two codes of a response with any bytes behind them. -/
theorem Response.ofBytes_eq_some_iff {bytes : List UInt8} {response : Response} :
    Response.ofBytes bytes = .ok (some response) ↔
      bytes = response.result.toByte :: ReportKind.response.toByte :: response.command ::
        response.screen :: response.payload := by
  constructor
  · intro hread
    rw [ofBytes.eq_def] at hread
    split at hread
    · next first kind command screen payload =>
      split at hread
      · next hkind =>
        rw [Except.ok.injEq] at hread
        obtain ⟨result, hresult, rfl⟩ := Option.map_eq_some_iff.mp hread
        rw [ReportKind.ofByte?_eq_some_iff.mp hkind, Verdict.ofByte?_eq_some_iff.mp hresult]
      · injection hread with hnone
        contradiction
    · contradiction
  · rintro rfl
    simp [ofBytes]

namespace Frame

theorem take_report_eq_header (frame : Frame) :
    frame.report.toList.take headerSize =
      [frame.verdictByte, frame.kindByte, frame.commandByte, frame.screenByte] := by
  apply List.ext_getElem
  · rw [List.length_take, Vector.length_toList]
    rfl
  · intro index hleft hright
    rw [List.getElem_take, Vector.getElem_toList]
    match index, hright with
    | 0, _ | 1, _ | 2, _ | 3, _ => rfl

theorem take_bytes_eq_header {frame : Frame} (hheader : headerSize ≤ frame.length) :
    frame.bytes.take headerSize =
      [frame.verdictByte, frame.kindByte, frame.commandByte, frame.screenByte] := by
  rw [bytes, List.take_take, min_eq_left hheader, take_report_eq_header]

/-- A report is a header and what comes after it. -/
theorem report_eq_header_append (frame : Frame) :
    frame.report.toList =
      [frame.verdictByte, frame.kindByte, frame.commandByte, frame.screenByte] ++
        frame.report.toList.drop headerSize := by
  rw [← take_report_eq_header, List.take_append_drop]

/-- A frame that is long enough for a header is that header and what comes after it. -/
theorem bytes_eq_header_append {frame : Frame} (hheader : headerSize ≤ frame.length) :
    frame.bytes = [frame.verdictByte, frame.kindByte, frame.commandByte, frame.screenByte] ++
      frame.bytes.drop headerSize := by
  rw [← take_bytes_eq_header hheader, List.take_append_drop]

/-! ## What is written over a request -/

theorem getElem_markResult {frame : Frame} (hlength : minResponse ≤ frame.length) (code : Verdict)
    (index : ℕ) (hindex : index < reportSize) :
    (frame.markResult code).report[index] =
      if index = 0 then code.toByte else frame.report[index] := by
  rw [markResult, if_pos hlength]
  simp only [Vector.getElem_set, eq_comm]

theorem getElem_markResponse {frame : Frame} (hlength : minResponse ≤ frame.length)
    (code : Verdict) (index : ℕ) (hindex : index < reportSize) :
    (frame.markResponse code).report[index] =
      if index = 0 then code.toByte
      else if index = 1 then ReportKind.response.toByte
      else frame.report[index] := by
  rw [markResponse, if_pos hlength]
  simp only [Vector.getElem_set, eq_comm]
  split
  · next hone =>
    rw [if_neg (by omega)]
  · rfl

theorem getElem_putPayload (payload : List UInt8) (frame : Frame) (index : ℕ)
    (hindex : index < reportSize) :
    (frame.putPayload payload).report[index] =
      if headerSize ≤ index then (payload[index - headerSize]?).getD frame.report[index]
      else frame.report[index] := by
  simp only [putPayload, Vector.getElem_ofFn]
  split
  · next hheader =>
    rw [List.getElem?_take, if_pos (Nat.sub_lt_sub_right hheader hindex)]
    rfl
  · rfl

/-- Noting a result once more changes nothing. -/
theorem markResult_markResponse (code : Verdict) (frame : Frame) :
    (frame.markResponse code).markResult code = frame.markResponse code := by
  by_cases hlength : minResponse ≤ frame.length
  · have hmarked : minResponse ≤ (frame.markResponse code).length := by
      rw [length_markResponse]
      exact hlength
    rw [Frame.mk.injEq]
    refine ⟨?_, length_markResult ..⟩
    apply Vector.ext
    intro index hindex
    rw [getElem_markResult hmarked, getElem_markResponse hlength]
    split <;> rfl
  · rw [markResult, markResponse, if_neg hlength, if_neg hlength]

end Frame

namespace Station

variable {capacity : ℕ}

/-- What a frame that was run adds to its response. -/
def addedPayload (station : Station capacity) (outcome : Except RunFault Outcome) :
    Option (List UInt8) :=
  if outcome = .ok (.applied .setUp) then
    some [station.screen.geometry.cols, station.screen.geometry.rows]
  else
    none

theorem payload_runOnScreen {command : Command} {payload : List UInt8}
    {screen next : Screen.Buffers capacity} {answer : Option (List UInt8)}
    (hrun : runOnScreen command payload screen = .ok (next, answer)) :
    answer = if command = .setUp then some [screen.geometry.cols, screen.geometry.rows]
      else none := by
  cases command with
  | setUp => cases hrun; rfl
  | clear => cases hrun; rfl
  | present => cases hrun; rfl
  | setLine =>
      cases payload with
      | nil => contradiction
      | cons line text =>
          rw [runOnScreen] at hrun
          split at hrun
          · cases hrun; rfl
          · contradiction

theorem payload_effectOf {station : Station capacity} {frame : Frame} {effect : Effect capacity}
    (heffect : station.effectOf frame = .ok effect) :
    effect.payload = station.addedPayload (.ok effect.outcome) := by
  by_cases hother : station.IsForOther frame
  · rw [effectOf_of_isForOther hother] at heffect
    cases heffect
    rfl
  by_cases hhere : station.IsForHere frame
  · rw [effectOf_of_isForHere hhere] at heffect
    split at heffect
    · contradiction
    · split at heffect
      · contradiction
      · next hrun =>
        cases heffect
        simp [payload_runOnScreen hrun, addedPayload]
  · by_cases hheader : headerSize ≤ frame.length
    · rw [effectOf_of_unknownScreen hheader hother hhere] at heffect
      contradiction
    · rw [effectOf_of_short (Nat.not_le.mp hheader)] at heffect
      contradiction

/-- A response is the request with the added payload, and the header of a response in front. -/
theorem response_run {station : Station capacity} {frame : Frame}
    (hlength : minResponse ≤ frame.length) :
    (station.run frame).response =
      (answered (station.addedPayload (station.run frame).outcome)
        (frame.markResponse .failure)).markResult (.ofExcept (station.run frame).outcome) := by
  cases heffect : station.effectOf frame with
  | error fault =>
      rw [run_of_fault hlength heffect]
      exact (Frame.markResult_markResponse .failure frame).symm
  | ok effect =>
      rw [run_of_effect hlength heffect, payload_effectOf heffect]
      rfl

/-- Every byte of a response. -/
theorem getElem_response_run {station : Station capacity} {frame : Frame}
    (hlength : minResponse ≤ frame.length) (index : ℕ) (hindex : index < reportSize) :
    (station.run frame).response.report[index] =
      if index = 0 then (Verdict.ofExcept (station.run frame).outcome).toByte
      else if index = 1 then ReportKind.response.toByte
      else if headerSize ≤ index then
        (((station.addedPayload (station.run frame).outcome).getD [])[index - headerSize]?).getD
          frame.report[index]
      else frame.report[index] := by
  have hmarked : minResponse ≤ (frame.markResponse .failure).length := by
    rw [Frame.length_markResponse]
    exact hlength
  rw [response_run hlength]
  cases station.addedPayload (station.run frame).outcome with
  | none =>
      rw [answered, Frame.getElem_markResult hmarked, Frame.getElem_markResponse hlength]
      grind
  | some payload =>
      have hgrown : minResponse ≤ ((frame.markResponse .failure).putPayload payload).length := by
        rw [Frame.length_putPayload]
        exact le_trans hmarked (le_max_left _ _)
      rw [answered, Frame.getElem_markResult hgrown, Frame.getElem_putPayload,
        Frame.getElem_markResponse hlength]
      grind

/-- Only a set-up that was run can make a frame longer, to hold the size of the screen. -/
theorem length_response_run {station : Station capacity} {frame : Frame}
    (hlength : minResponse ≤ frame.length) :
    (station.run frame).response.length =
      if (station.run frame).outcome = .ok (.applied .setUp) then max frame.length 6
      else frame.length := by
  rw [response_run hlength, Frame.length_markResult, addedPayload]
  split
  · rw [answered, Frame.length_putPayload, Frame.length_markResponse]
    rfl
  · rw [answered, Frame.length_markResponse]

theorem le_length_response_run (station : Station capacity) (frame : Frame) :
    frame.length ≤ (station.run frame).response.length := by
  by_cases hlength : minResponse ≤ frame.length
  · rw [length_response_run hlength]
    split
    · exact le_max_left _ _
    · exact le_rfl
  · rw [run_of_short (Nat.not_le.mp hlength)]

/-- The first four bytes of a response say how its request went, and repeat what it was. -/
theorem header_response_run {station : Station capacity} {frame : Frame}
    (hlength : minResponse ≤ frame.length) :
    [(station.run frame).response.verdictByte, (station.run frame).response.kindByte,
        (station.run frame).response.commandByte, (station.run frame).response.screenByte] =
      [(Verdict.ofExcept (station.run frame).outcome).toByte, ReportKind.response.toByte,
        frame.commandByte, frame.screenByte] := by
  have hverdict : (station.run frame).response.verdictByte =
      (Verdict.ofExcept (station.run frame).outcome).toByte :=
    getElem_response_run hlength 0 (by decide)
  have hkind : (station.run frame).response.kindByte = ReportKind.response.toByte :=
    getElem_response_run hlength 1 (by decide)
  have hcommand : (station.run frame).response.commandByte = frame.commandByte :=
    getElem_response_run hlength 2 (by decide)
  have hscreen : (station.run frame).response.screenByte = frame.screenByte :=
    getElem_response_run hlength 3 (by decide)
  rw [hverdict, hkind, hcommand, hscreen]

/-- The host reads a response as the answer to the request that it sent. -/
theorem ofBytes_response_run {station : Station capacity} {frame : Frame}
    (hheader : headerSize ≤ frame.length) :
    Response.ofBytes (station.run frame).response.bytes = .ok (some {
      result := .ofExcept (station.run frame).outcome
      command := frame.commandByte
      screen := frame.screenByte
      payload := (station.run frame).response.bytes.drop headerSize }) := by
  have hlength : minResponse ≤ frame.length := le_trans (by decide) hheader
  have hresponse : headerSize ≤ (station.run frame).response.length :=
    le_trans hheader (le_length_response_run station frame)
  apply Response.ofBytes_eq_some_iff.mpr
  calc (station.run frame).response.bytes
      = _ := Frame.bytes_eq_header_append hresponse
    _ = _ := by
      rw [header_response_run hlength]
      rfl

/-- A frame that is too short for a header is answered as well, and the host, which gets a whole
report, reads zeros for what was missing. -/
theorem ofBytes_report_response_run {station : Station capacity} {frame : Frame}
    (hlength : minResponse ≤ frame.length) :
    Response.ofBytes (station.run frame).response.report.toList = .ok (some {
      result := .ofExcept (station.run frame).outcome
      command := frame.commandByte
      screen := frame.screenByte
      payload := (station.run frame).response.report.toList.drop headerSize }) := by
  apply Response.ofBytes_eq_some_iff.mpr
  calc (station.run frame).response.report.toList
      = _ := Frame.report_eq_header_append _
    _ = _ := by
      rw [header_response_run hlength]
      rfl

section SetUp

variable {station : Station capacity} {frame : Frame}

/-- The size of the screen comes right behind the header. -/
theorem size_response_run (hsetUp : (station.run frame).outcome = .ok (.applied .setUp)) :
    (station.run frame).response.report[4] = station.screen.geometry.cols ∧
      (station.run frame).response.report[5] = station.screen.geometry.rows := by
  have hlength : minResponse ≤ frame.length :=
    ((outcome_eq_applied_iff station frame .setUp).mp hsetUp).minResponse_le
  have hadded : station.addedPayload (station.run frame).outcome =
      some [station.screen.geometry.cols, station.screen.geometry.rows] := if_pos hsetUp
  constructor
  · rw [getElem_response_run hlength, hadded]
    rfl
  · rw [getElem_response_run hlength, hadded]
    rfl

/-- A set-up that was run is answered with the size of the screen. -/
theorem payload_response_run_of_setUp
    (hsetUp : (station.run frame).outcome = .ok (.applied .setUp)) :
    ((station.run frame).response.bytes.drop headerSize).take 2 =
      [station.screen.geometry.cols, station.screen.geometry.rows] := by
  have hlength : minResponse ≤ frame.length :=
    ((outcome_eq_applied_iff station frame .setUp).mp hsetUp).minResponse_le
  have hgrown : 2 ≤ (station.run frame).response.length - headerSize := by
    rw [length_response_run hlength, if_pos hsetUp]
    exact Nat.le_sub_of_add_le' (le_max_right _ _)
  obtain ⟨hcols, hrows⟩ := size_response_run hsetUp
  have hfifth : headerSize < (station.run frame).response.report.toList.length := by
    rw [Vector.length_toList]
    decide
  have hsixth : headerSize + 1 < (station.run frame).response.report.toList.length := by
    rw [Vector.length_toList]
    decide
  rw [Frame.bytes, List.drop_take, List.take_take, min_eq_left hgrown,
    List.drop_eq_getElem_cons hfifth, List.take_succ_cons, List.drop_eq_getElem_cons hsixth,
    List.take_succ_cons, List.take_zero, Vector.getElem_toList, Vector.getElem_toList]
  exact congrArg₂ (fun cols rows => [cols, rows]) hcols hrows

end SetUp

/-- Behind the first two bytes a response is its request, but for the size of the screen. -/
theorem getElem_response_run_of_body {station : Station capacity} {frame : Frame}
    (hlength : minResponse ≤ frame.length) {index : ℕ} (hindex : index < reportSize)
    (hbody : 2 ≤ index)
    (hsize : (station.run frame).outcome = .ok (.applied .setUp) → index ≠ 4 ∧ index ≠ 5) :
    (station.run frame).response.report[index] = frame.report[index] := by
  rw [getElem_response_run hlength, if_neg (by omega), if_neg (by omega)]
  rcases Nat.lt_or_ge index headerSize with hheader | hpayload
  · rw [if_neg (Nat.not_le.mpr hheader)]
  · have hnone : ((station.addedPayload (station.run frame).outcome).getD
        [])[index - headerSize]? = none := by
      apply List.getElem?_eq_none
      rw [addedPayload]
      split
      · next hsetUp =>
        have hbehind : 4 ≤ index := hpayload
        obtain ⟨hcols, hrows⟩ := hsize hsetUp
        show 2 ≤ index - 4
        omega
      · exact Nat.zero_le _
    rw [if_pos hpayload, hnone, Option.getD_none]

theorem serve_snd (station : Station capacity) (frame : Frame) :
    (station.serve frame).2 =
      if station.role = .master ∧ minResponse ≤ frame.length then
        some (station.run frame).response
      else none := by
  have hanswered : minResponse ≤ (station.run frame).response.length ↔
      minResponse ≤ frame.length := by
    constructor
    · intro hresponse
      by_contra hshort
      rw [run_of_short (Nat.not_le.mp hshort)] at hresponse
      exact hshort hresponse
    · intro hlength
      exact le_trans hlength (le_length_response_run station frame)
  rw [serve, answer?, role_run]
  simp only [hanswered]

/-- A frame of one byte is refused and stays as it is.  Any longer one is made into its response:
the first byte says whether it was done or refused, the second that this is a response, and all
else stays as it is.  Only a set-up that was run puts the size of the screen right behind the
header, where the frame has to grow if it is too short for it.  The master half answers every frame
of two bytes or more with its response, and the slave half answers none. -/
theorem response_written_over_request (station : Station capacity) (frame : Frame) :
    (frame.length = 1 →
      (station.run frame).outcome = .error .frameTooShort ∧
      (station.run frame).response = frame) ∧
    (2 ≤ frame.length →
      ((station.run frame).response.report[0] = 0 ↔
        ∃ outcome, (station.run frame).outcome = .ok outcome) ∧
      ((station.run frame).response.report[0] = 1 ↔
        ∃ fault, (station.run frame).outcome = .error fault) ∧
      (station.run frame).response.report[1] = 0) ∧
    (2 ≤ frame.length → (station.run frame).outcome ≠ .ok (.applied .setUp) →
      (station.run frame).response.length = frame.length ∧
      ∀ (index : ℕ) (hindex : index < reportSize), 2 ≤ index →
        (station.run frame).response.report[index] = frame.report[index]) ∧
    ((station.run frame).outcome = .ok (.applied .setUp) →
      (station.run frame).response.length = max frame.length 6 ∧
      (station.run frame).response.report[4] = station.screen.geometry.cols ∧
      (station.run frame).response.report[5] = station.screen.geometry.rows ∧
      ∀ (index : ℕ) (hindex : index < reportSize), 2 ≤ index → index ≠ 4 → index ≠ 5 →
        (station.run frame).response.report[index] = frame.report[index]) ∧
    (station.serve frame).2 =
      if station.role = .master ∧ 2 ≤ frame.length then some (station.run frame).response
      else none := by
  refine ⟨?_, ?_, ?_, ?_, serve_snd station frame⟩
  · intro hone
    have hshort : frame.length < minResponse := by
      rw [hone]
      exact Nat.one_lt_two
    rw [run_of_short hshort]
    exact ⟨rfl, rfl⟩
  · intro hlength
    refine ⟨?_, ?_, ?_⟩
    · rw [getElem_response_run hlength, if_pos rfl, Verdict.toByte_eq_zero_iff,
        Verdict.ofExcept_eq_success_iff]
    · rw [getElem_response_run hlength, if_pos rfl, Verdict.toByte_eq_one_iff,
        Verdict.ofExcept_eq_failure_iff]
    · rw [getElem_response_run hlength, if_neg Nat.one_ne_zero, if_pos rfl]
      rfl
  · intro hlength hother
    refine ⟨?_, ?_⟩
    · rw [length_response_run hlength, if_neg hother]
    · intro index hindex hbody
      exact getElem_response_run_of_body hlength hindex hbody fun hsetUp => absurd hsetUp hother
  · intro hsetUp
    have hlength : minResponse ≤ frame.length :=
      ((outcome_eq_applied_iff station frame .setUp).mp hsetUp).minResponse_le
    obtain ⟨hcols, hrows⟩ := size_response_run hsetUp
    refine ⟨?_, hcols, hrows, ?_⟩
    · rw [length_response_run hlength, if_pos hsetUp]
    · intro index hindex hbody hfourth hfifth
      exact getElem_response_run_of_body hlength hindex hbody fun _ => ⟨hfourth, hfifth⟩

/-- A set-up of five bytes, with one that it does not need, grows to hold the size of the screen. -/
theorem response_written_over_request_of_set_up :
    let station : Station 8 := { role := .master, screen := .cleared ⟨4, 2⟩, outbox := .empty }
    let frame := Frame.holding [2, 9, 0, 0, 7]
    (station.run frame).outcome = .ok (.applied .setUp) ∧
      (station.run frame).response.length = max frame.length 6 ∧
      (station.run frame).response.report[4] = 4 ∧ (station.run frame).response.report[5] = 2 ∧
      (station.run frame).response.report[1] = 0 := by
  intro station frame
  have hsetUp : (station.run frame).outcome = .ok (.applied .setUp) := rfl
  have hlength : 2 ≤ frame.length := show 2 ≤ 5 by decide
  obtain ⟨-, hheader, -, hsize, -⟩ := response_written_over_request station frame
  obtain ⟨hgrown, hcols, hrows, -⟩ := hsize hsetUp
  exact ⟨hsetUp, hgrown, hcols, hrows, (hheader hlength).2.2⟩

end Station

end SplitPanel

import SplitPanel.Proofs.Responses

/-!
# Responses and events

The host gets responses and events over one connection, and tells them apart by their second byte.
An event is read back from its report whatever stands in the first byte and behind the arguments,
so all that can be read as an event agrees with its report in between, and no bytes are read as
both.  A response repeats bytes of its request that anybody may have chosen, but not in its second
byte, so no request can make the keyboard answer with what the host takes for an event.
-/

namespace SplitPanel

namespace TagEvent

/-- The bytes of a report that tell which event it is of. -/
def tellingBytes (event : TagEvent) : List UInt8 :=
  ReportKind.event.toByte :: event.id.toByte :: event.arguments

theorem length_tellingBytes (event : TagEvent) :
    event.tellingBytes.length = if event.id = .setTag then 4 else 3 := by
  cases event <;> rfl

/-- An event report is filled up with zeros. -/
theorem toList_report_toFrame (event : TagEvent) :
    event.toFrame.report.toList = Verdict.success.toByte :: (event.tellingBytes ++
      List.replicate (reportSize - (event.tellingBytes.length + 1)) 0) := by
  have hbound : event.tellingBytes.length ≤ 4 := by
    rw [length_tellingBytes]
    split
    · exact le_rfl
    · exact Nat.le_succ 3
  have hkept : event.arguments.take maxEventArguments = event.arguments := by
    apply List.take_of_length_le
    have harguments : event.arguments.length + 2 ≤ 4 := hbound
    show event.arguments.length ≤ 28
    omega
  have hfits : (Verdict.success.toByte :: event.tellingBytes).length ≤ reportSize :=
    le_trans (Nat.succ_le_succ hbound) (by decide)
  rw [toFrame, frameOfEvent, Frame.ofReport, hkept]
  exact Report.toList_ofBytes hfits

/-! ## Reading events -/

theorem ofBytes_codes (first : UInt8) (id : EventCode) (screen : Side) (rest : List UInt8) :
    ofBytes (first :: ReportKind.event.toByte :: id.toByte :: screen.toByte :: rest) =
      .ok (match id with
        | .setTag => rest.head?.map (.setTag screen)
        | .increment => some (.increment screen)
        | .decrement => some (.decrement screen)) := by
  cases id <;> simp [ofBytes]

/-- What is read as an event holds the codes of an event and of a screen. -/
theorem exists_codes_of_ofBytes {bytes : List UInt8} {event : TagEvent}
    (hread : ofBytes bytes = .ok (some event)) :
    ∃ (first : UInt8) (id : EventCode) (screen : Side) (rest : List UInt8),
      bytes = first :: ReportKind.event.toByte :: id.toByte :: screen.toByte :: rest := by
  rw [ofBytes.eq_def] at hread
  split at hread
  · next first kind code side rest =>
    split at hread
    · next hkind =>
      cases hscreen : Side.ofByte? side with
      | none => simp [hscreen] at hread
      | some screen =>
          cases hid : EventCode.ofByte? code with
          | none => simp [hscreen, hid] at hread
          | some id =>
              refine ⟨first, id, screen, rest, ?_⟩
              rw [ReportKind.ofByte?_eq_some_iff.mp hkind, EventCode.ofByte?_eq_some_iff.mp hid,
                Side.ofByte?_eq_some_iff.mp hscreen]
    · injection hread with hnone
      contradiction
  · contradiction

/-- Reading accepts what writing produces, with any first byte and anything behind it. -/
theorem ofBytes_eq_some_iff {bytes : List UInt8} {event : TagEvent} :
    ofBytes bytes = .ok (some event) ↔
      ∃ first rest, bytes = first :: (event.tellingBytes ++ rest) := by
  constructor
  · intro hread
    obtain ⟨first, id, screen, rest, rfl⟩ := exists_codes_of_ofBytes hread
    rw [ofBytes_codes, Except.ok.injEq] at hread
    cases id with
    | setTag =>
        obtain ⟨tag, htag, rfl⟩ := Option.map_eq_some_iff.mp hread
        obtain ⟨rest, rfl⟩ := List.head?_eq_some_iff.mp htag
        exact ⟨first, rest, rfl⟩
    | increment | decrement =>
        obtain rfl := Option.some.inj hread
        exact ⟨first, rest, rfl⟩
  · rintro ⟨first, rest, rfl⟩
    cases event with
    | setTag screen tag => exact ofBytes_codes first .setTag screen (tag :: rest)
    | increment screen => exact ofBytes_codes first .increment screen rest
    | decrement screen => exact ofBytes_codes first .decrement screen rest

/-- An event is read back from its report. -/
@[simp]
theorem ofBytes_toFrame (event : TagEvent) :
    ofBytes event.toFrame.report.toList = .ok (some event) :=
  ofBytes_eq_some_iff.mpr ⟨_, _, toList_report_toFrame event⟩

/-- What is read as an event agrees with the report of the event, but for the first byte and what
comes behind the arguments. -/
theorem getElem?_of_ofBytes {bytes : List UInt8} {event : TagEvent}
    (hread : ofBytes bytes = .ok (some event)) {index : ℕ} (hfirst : 1 ≤ index)
    (hlast : index ≤ event.tellingBytes.length) :
    bytes[index]? = event.toFrame.bytes[index]? := by
  obtain ⟨first, rest, rfl⟩ := ofBytes_eq_some_iff.mp hread
  have hwritten : event.toFrame.bytes = event.toFrame.report.toList := Frame.bytes_ofReport _
  obtain ⟨place, rfl⟩ := Nat.exists_eq_succ_of_ne_zero (Nat.one_le_iff_ne_zero.mp hfirst)
  rw [hwritten, toList_report_toFrame, List.getElem?_cons_succ, List.getElem?_cons_succ,
    List.getElem?_append_left hlast, List.getElem?_append_left hlast]

end TagEvent

/-! ## Nothing is both -/

theorem Response.ofBytes_of_event {bytes : List UInt8} {event : TagEvent}
    (hread : TagEvent.ofBytes bytes = .ok (some event)) : Response.ofBytes bytes = .ok none := by
  obtain ⟨first, id, screen, rest, rfl⟩ := TagEvent.exists_codes_of_ofBytes hread
  simp [Response.ofBytes]

theorem TagEvent.ofBytes_of_response {bytes : List UInt8} {response : Response}
    (hread : Response.ofBytes bytes = .ok (some response)) : TagEvent.ofBytes bytes = .ok none := by
  obtain rfl := Response.ofBytes_eq_some_iff.mp hread
  simp [TagEvent.ofBytes]

/-- The host tells responses from events, whatever it gets.  Every event is read back from its
report, which is not read as a response; no bytes are read as both; and bytes that are read as an
event agree with its report in all bytes that tell which event it is.  Whatever the master half is
sent in two bytes or more, its reply is read as a response to that command and screen, with zeros
for bytes that were missing.  The response says whether the frame was run, and is not read as an
event. -/
theorem reports_told_apart :
    (∀ event : TagEvent,
      TagEvent.ofBytes event.toFrame.report.toList = .ok (some event) ∧
      Response.ofBytes event.toFrame.report.toList = .ok none) ∧
    (∀ bytes response event, Response.ofBytes bytes = .ok (some response) →
      TagEvent.ofBytes bytes ≠ .ok (some event)) ∧
    (∀ bytes event, TagEvent.ofBytes bytes = .ok (some event) →
      ∀ index, 1 ≤ index → index ≤ 3 ∨ index = 4 ∧ event.id = .setTag →
        bytes[index]? = event.toFrame.bytes[index]?) ∧
    (∀ (capacity : ℕ) (station : Station capacity) (frame : Frame), station.role = .master →
      frame.Built → 2 ≤ frame.length → ∃ reply response,
        (station.serve frame).2 = some reply ∧
        Response.ofBytes reply.report.toList = .ok (some response) ∧
        response.command = frame.bytes.getD 2 0 ∧ response.screen = frame.bytes.getD 3 0 ∧
        (response.result = .success ↔ ∃ outcome, (station.run frame).outcome = .ok outcome) ∧
        TagEvent.ofBytes reply.report.toList = .ok none) := by
  refine ⟨?_, ?_, ?_, ?_⟩
  · intro event
    exact ⟨event.ofBytes_toFrame, Response.ofBytes_of_event event.ofBytes_toFrame⟩
  · intro bytes response event hresponse hevent
    rw [Response.ofBytes_of_event hevent, Except.ok.injEq] at hresponse
    contradiction
  · intro bytes event hevent index hfirst hlast
    apply TagEvent.getElem?_of_ofBytes hevent hfirst
    rw [TagEvent.length_tellingBytes]
    split
    · rcases hlast with hthird | ⟨hfourth, -⟩
      · exact le_trans hthird (Nat.le_succ 3)
      · exact hfourth.le
    · next hother => exact hlast.resolve_right fun hfourth => hother hfourth.2
  · intro capacity station frame hrole hframe hlength
    have hread : Response.ofBytes (station.run frame).response.report.toList = _ :=
      Station.ofBytes_report_response_run hlength
    refine ⟨_, _, ?_, hread, ?_, ?_, ?_, TagEvent.ofBytes_of_response hread⟩
    · rw [Station.serve_snd, if_pos ⟨hrole, hlength⟩]
    · exact (hframe.wellFormed.getD_bytes (by decide)).symm
    · exact (hframe.wellFormed.getD_bytes (by decide)).symm
    · exact Verdict.ofExcept_eq_success_iff

/-- A request whose bytes could be read as an event is answered with a response to a set-up. -/
theorem reports_told_apart_of_forged_event :
    let station : Station 8 := { role := .master, screen := .cleared ⟨4, 2⟩, outbox := .empty }
    let frame := Frame.holding [0, 1, 0, 0, 5]
    TagEvent.ofBytes frame.bytes = .ok (some (.setTag .master 5)) ∧
      ∃ reply response, (station.serve frame).2 = some reply ∧
        Response.ofBytes reply.report.toList = .ok (some response) ∧
        response.command = Command.setUp.toByte ∧ response.screen = Side.master.toByte ∧
        TagEvent.ofBytes reply.report.toList = .ok none := by
  intro station frame
  have hbuilt : frame.Built := .ofBytes (rfl : Frame.ofBytes [0, 1, 0, 0, 5] = _)
  have hlength : 2 ≤ frame.length := show 2 ≤ 5 by decide
  obtain ⟨reply, response, hreply, hread, hcommand, hscreen, -, hnone⟩ :=
    reports_told_apart.2.2.2 8 station frame rfl hbuilt hlength
  exact ⟨rfl, reply, response, hreply, hread, hcommand, hscreen, hnone⟩

end SplitPanel

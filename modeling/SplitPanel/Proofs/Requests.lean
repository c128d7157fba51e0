import SplitPanel.Proofs.Padding
import SplitPanel.Proofs.Responses
import SplitPanel.Wire.Request

/-!
# Requests of the host

A request in a frame makes a station do what the request asks for, as if it were made to the
screen without any frame.  Only the text of a line is not the same any more when it arrives: it is
cut to what fits behind the line number, and it ends at its first zero.
-/

namespace SplitPanel

open Screen (Buffers LineFault)

/-- Room for a text behind the number of its line. -/
abbrev maxText : ℕ := maxPayload - 1

namespace Request

variable {capacity : ℕ}

/-- The part of a text that arrives. -/
def arrivingText (text : List UInt8) : List UInt8 :=
  (text.take maxText).takeWhile (· != 0)

/-- What a request makes of a screen. -/
def storeTo (screen : Buffers capacity) : Request → Except LineFault (Buffers capacity)
  | .setUp _ | .clear _ => .ok screen.clear
  | .setLine _ line text => screen.composeRow line (arrivingText text)
  | .present _ => .ok screen.present

/-- What a request makes of a station that it is made to without a frame. -/
def perform (station : Station capacity) (request : Request) :
    Station capacity × Except RunFault Outcome :=
  match request.storeTo station.screen with
  | .ok screen => ({ station with screen }, .ok (.applied request.command))
  | .error (.outOfBounds line rows) => (station, .error (.lineOutOfBounds line rows))

/-! ## The frame of a request -/

theorem toFrame_eq_holding (request : Request) :
    request.toFrame = .holding ([2, 0, request.command.toByte, request.screen.toByte] ++
      request.payload.take maxPayload) := by
  rw [toFrame, Frame.ofParts_eq_holding]
  rfl

theorem bytes_toFrame (request : Request) :
    request.toFrame.bytes = [2, 0, request.command.toByte, request.screen.toByte] ++
      request.payload.take maxPayload := by
  rw [toFrame_eq_holding]
  apply Frame.bytes_holding
  rw [List.length_append, List.length_take]
  exact Nat.add_le_add_left (min_le_left maxPayload _) headerSize

theorem take_maxPayload_cons (line : UInt8) (text : List UInt8) :
    (line :: text).take maxPayload = line :: text.take maxText :=
  rfl

theorem length_toFrame (request : Request) :
    request.toFrame.length =
      match request with
      | .setLine _ _ text => 5 + min text.length maxText
      | _ => 4 := by
  cases request with
  | setUp | clear | present => rfl
  | setLine screen line text =>
      rw [toFrame_eq_holding, Frame.holding, payload, take_maxPayload_cons]
      simp only [List.length_append, List.length_cons, List.length_nil, List.length_take]
      omega

theorem headerSize_le_length_toFrame (request : Request) :
    headerSize ≤ request.toFrame.length := by
  rw [length_toFrame]
  cases request with
  | setUp | clear | present => exact le_rfl
  | setLine => exact le_trans (by decide) (Nat.le_add_right 5 _)

theorem header_toFrame (request : Request) :
    [request.toFrame.verdictByte, request.toFrame.kindByte, request.toFrame.commandByte,
      request.toFrame.screenByte] = [2, 0, request.command.toByte, request.screen.toByte] := by
  rw [← Frame.take_bytes_eq_header (headerSize_le_length_toFrame request), bytes_toFrame]
  rfl

@[simp]
theorem commandByte_toFrame (request : Request) :
    request.toFrame.commandByte = request.command.toByte := by
  have hheader := header_toFrame request
  simp only [List.cons.injEq] at hheader
  exact hheader.2.2.1

@[simp]
theorem screenByte_toFrame (request : Request) :
    request.toFrame.screenByte = request.screen.toByte := by
  have hheader := header_toFrame request
  simp only [List.cons.injEq] at hheader
  exact hheader.2.2.2.1

theorem wellFormed_toFrame (request : Request) : request.toFrame.WellFormed :=
  Frame.wellFormed_ofParts ..

/-- A request to set a line always names one. -/
theorem not_isBareLine_toFrame (station : Station capacity) (request : Request) :
    ¬ station.IsBareLine request.toFrame := by
  rintro ⟨hlength, hcommand, -⟩
  rw [length_toFrame] at hlength
  rw [commandByte_toFrame] at hcommand
  cases request with
  | setUp | clear | present =>
      simp only [command] at hcommand
      exact absurd hcommand (by decide)
  | setLine screen line text =>
      have hlonger : headerSize < 5 + min text.length maxText :=
        lt_of_lt_of_le (by decide) (Nat.le_add_right 5 _)
      exact absurd hlength hlonger.ne'

/-! ## Running the frame -/

theorem isForHere_toFrame {station : Station capacity} {request : Request}
    (hhere : request.screen = .master ∨ station.role = .slave) :
    station.IsForHere request.toFrame := by
  refine ⟨headerSize_le_length_toFrame request, ?_⟩
  rw [screenByte_toFrame]
  cases hscreen : request.screen with
  | master => exact .inl rfl
  | slave =>
      rw [hscreen] at hhere
      exact .inr ⟨hhere.resolve_left (by decide), rfl⟩

theorem lineText_take (text : List UInt8) :
    Station.lineText (text.take maxText) = arrivingText text :=
  rfl

/-- A command with its payload fares as the request that they come from. -/
theorem runOnScreen_request (request : Request) (screen : Buffers capacity) :
    (∃ next answer, request.storeTo screen = .ok next ∧
      Station.runOnScreen request.command (request.payload.take maxPayload) screen =
        .ok (next, answer)) ∨
    ∃ line rows, request.storeTo screen = .error (.outOfBounds line rows) ∧
      Station.runOnScreen request.command (request.payload.take maxPayload) screen =
        .error (.lineOutOfBounds line rows) := by
  cases request with
  | setUp | clear | present => exact .inl ⟨_, _, rfl, rfl⟩
  | setLine side line text =>
      rw [storeTo, command, payload, take_maxPayload_cons, Station.runOnScreen, lineText_take]
      cases screen.composeRow line (arrivingText text) with
      | ok next => exact .inl ⟨next, none, rfl, rfl⟩
      | error fault =>
          cases fault with
          | outOfBounds line rows => exact .inr ⟨line, rows, rfl, rfl⟩

/-- The frame does what the request does without it. -/
theorem run_toFrame_eq_perform {station : Station capacity} {request : Request}
    (hhere : request.screen = .master ∨ station.role = .slave) :
    ((station.run request.toFrame).station, (station.run request.toFrame).outcome) =
      request.perform station := by
  have hlength : minResponse ≤ request.toFrame.length :=
    le_trans (by decide) (headerSize_le_length_toFrame request)
  have heffect := Station.effectOf_of_isForHere (isForHere_toFrame hhere)
  have hpayload : request.toFrame.bytes.drop headerSize = request.payload.take maxPayload := by
    rw [bytes_toFrame]
    rfl
  rw [commandByte_toFrame, Command.ofByte?_toByte, hpayload] at heffect
  rcases runOnScreen_request request station.screen with
    ⟨next, answer, hstored, hrun⟩ | ⟨line, rows, hrefused, hrun⟩
  · simp only [hrun] at heffect
    rw [Station.run_of_effect hlength heffect, perform, hstored]
  · simp only [hrun] at heffect
    rw [Station.run_of_fault hlength heffect, perform, hrefused]

/-- The same holds with zeros behind the frame. -/
theorem run_padded_toFrame_eq_perform {station : Station capacity} {request : Request}
    (hhere : request.screen = .master ∨ station.role = .slave) :
    ((station.run request.toFrame.padded).station, (station.run request.toFrame.padded).outcome) =
      request.perform station := by
  rw [Station.run_padded_of_wellFormed (wellFormed_toFrame request)
    (headerSize_le_length_toFrame request) (not_isBareLine_toFrame station request)]
  exact run_toFrame_eq_perform hhere

theorem perform_of_setUp {station : Station capacity} {request : Request}
    (hsetUp : request.command = .setUp) :
    request.perform station =
      ({ station with screen := station.screen.clear }, .ok (.applied .setUp)) := by
  cases request with
  | setUp => rfl
  | clear | present | setLine => contradiction

/-- A request that this half runs itself is done by its frame, with zeros behind it or without, as
it would be done without the frame: a line that the screen does not have is refused with its
number and the number of rows, and nothing changes.  A set-up is answered with the size of the
screen.  The frame starts with the two bypass bytes, and it is as long as its payload needs. -/
theorem performed_by_toFrame {station : Station capacity} {request : Request}
    (hhere : request.screen = .master ∨ station.role = .slave) :
    (∀ frame, frame = request.toFrame ∨ frame = request.toFrame.padded →
      ((station.run frame).station, (station.run frame).outcome) = request.perform station ∧
      (∀ side line text, request = .setLine side line text →
        station.screen.geometry.rows ≤ line →
        (station.run frame).outcome =
          .error (.lineOutOfBounds line station.screen.geometry.rows) ∧
        (station.run frame).station = station) ∧
      (request.command = .setUp →
        ((station.run frame).response.bytes.drop headerSize).take 2 =
          [station.screen.geometry.cols, station.screen.geometry.rows])) ∧
    request.toFrame.bytes.take 2 = [2, 0] ∧
    (∀ side line text, request = .setLine side line text →
      request.toFrame.length = 5 + min text.length 27) ∧
    (request.command ≠ .setLine → request.toFrame.length = 4) := by
  refine ⟨?_, ?_, ?_, ?_⟩
  · intro frame hframe
    have hperform : ((station.run frame).station, (station.run frame).outcome) =
        request.perform station := by
      rcases hframe with rfl | rfl
      · exact run_toFrame_eq_perform hhere
      · exact run_padded_toFrame_eq_perform hhere
    refine ⟨hperform, ?_, ?_⟩
    · rintro side line text rfl hline
      have hrefused := station.screen.composeRow_of_not_lt (arrivingText text)
        (UInt8.not_lt.mpr hline)
      rw [perform, storeTo, hrefused, Prod.mk.injEq] at hperform
      exact ⟨hperform.2, hperform.1⟩
    · intro hsetUp
      apply Station.payload_response_run_of_setUp
      rw [perform_of_setUp hsetUp, Prod.mk.injEq] at hperform
      exact hperform.2
  · rw [bytes_toFrame]
    rfl
  · rintro side line text rfl
    exact length_toFrame _
  · intro hcommand
    rw [length_toFrame]
    cases request with
    | setUp | clear | present => rfl
    | setLine => exact absurd rfl hcommand

/-- A text of more bytes than fit, with a zero in it, for a line of the slave's screen. -/
theorem performed_by_toFrame_of_long_text :
    let station : Station 8 := { role := .slave, screen := .cleared ⟨4, 2⟩, outbox := .empty }
    let request := Request.setLine .slave 1 (0x68 :: 0x69 :: 0 :: List.replicate 40 0x78)
    (request.screen = .master ∨ station.role = .slave) ∧
      ((station.run request.toFrame.padded).station,
        (station.run request.toFrame.padded).outcome) = request.perform station ∧
      request.toFrame.length = 32 := by
  intro station request
  have hhere : request.screen = .master ∨ station.role = .slave := .inr rfl
  have hperformed := performed_by_toFrame hhere
  exact ⟨hhere, (hperformed.1 _ (.inr rfl)).1, hperformed.2.2.1 _ _ _ rfl⟩

end Request

end SplitPanel

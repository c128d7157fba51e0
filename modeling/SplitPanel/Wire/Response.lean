import SplitPanel.Wire.Frame

/-!
# Responses of the keyboard

A response repeats the command and the screen of its request as bytes, so that an answer to a
request the host never made can still be read.
-/

namespace SplitPanel

/-- An answer to one request. -/
structure Response where
  result : Verdict
  command : UInt8
  screen : UInt8
  payload : List UInt8
deriving DecidableEq, Repr

namespace Response

/-- Reads a response; `none` for a report that is none. -/
def ofBytes : List UInt8 → Except FrameFault (Option Response)
  | result :: kind :: command :: screen :: payload =>
    if ReportKind.ofByte? kind = some .response then
      .ok ((Verdict.ofByte? result).map fun result => { result, command, screen, payload })
    else
      .ok none
  | _ => .error .tooShort

/-- The columns and rows that a successful set-up reports. -/
def screenSize? (response : Response) : Option (UInt8 × UInt8) :=
  if response.command = Command.setUp.toByte ∧ response.result = .success then
    match response.payload with
    | cols :: rows :: _ => some (cols, rows)
    | _ => none
  else
    none

end Response

end SplitPanel

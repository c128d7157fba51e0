import SplitPanel.Wire.Vocabulary

/-!
# Frames

Every message between host and keyboard is one report of at most 32 bytes.

* request: two bypass bytes, command, screen, payload
* response: result, report kind, command, screen, payload
* event: result, report kind, event, arguments

The two bypass bytes are never looked at; a half turns a request into its response by writing
the result and the report kind over them.  A frame therefore keeps the whole 32-byte report
together with the number of bytes that count.
-/

namespace SplitPanel

/-- Size of a report in bytes. -/
abbrev reportSize : Nat := 32

/-- The bytes before the payload. -/
abbrev headerSize : Nat := 4

/-- Room for a payload after the header. -/
abbrev maxPayload : Nat := reportSize - headerSize

/-- A frame shorter than this gets no response. -/
abbrev minResponse : Nat := 2

/-- The bytes of one full report. -/
abbrev Report : Type := Vector UInt8 reportSize

/-- The first 32 of the given bytes, with zeros where there are fewer. -/
def Report.ofBytes (bytes : List UInt8) : Report :=
  Vector.ofFn fun i => bytes.getD i 0

/-- Why bytes are not a frame, or a frame not a message. -/
inductive FrameFault where
  | empty
  | tooLong
  | tooShort
deriving DecidableEq, Repr

/-- A report of which the first `length` bytes count. -/
structure Frame where
  report : Report
  length : Nat
deriving DecidableEq

/-- A request as read from a frame: two codes not yet decoded, and everything after them. -/
structure RawRequest where
  command : UInt8
  screen : UInt8
  payload : List UInt8
deriving DecidableEq, Repr

namespace Frame

/-- A frame of exactly these bytes. -/
def holding (bytes : List UInt8) : Frame :=
  { report := Report.ofBytes bytes, length := bytes.length }

/-- A frame of the given bytes, which must be between 1 and 32. -/
def ofBytes (bytes : List UInt8) : Except FrameFault Frame :=
  if bytes.isEmpty then
    .error .empty
  else if reportSize < bytes.length then
    .error .tooLong
  else
    .ok (holding bytes)

/-- A frame of the first 32 of the given bytes. -/
def ofPrefix (bytes : List UInt8) : Except FrameFault Frame :=
  if bytes.isEmpty then .error .empty else .ok (holding (bytes.take reportSize))

/-- A full report. -/
def ofReport (report : Report) : Frame :=
  { report, length := reportSize }

/-- A full report of zeros. -/
def zeros : Frame :=
  ofReport (Vector.replicate reportSize 0)

/-- A header and as much of the payload as fits after it. -/
def ofParts (header : Vector UInt8 headerSize) (payload : List UInt8) : Frame :=
  let kept := payload.take maxPayload
  { report := Report.ofBytes (header.toList ++ kept), length := headerSize + kept.length }

/-- The bytes that count. -/
def bytes (frame : Frame) : List UInt8 :=
  frame.report.toList.take frame.length

def isEmpty (frame : Frame) : Bool :=
  frame.length = 0

/-- The request in a frame that is long enough for a header. -/
def request (frame : Frame) : Except FrameFault RawRequest :=
  if frame.length < headerSize then
    .error .tooShort
  else
    .ok {
      command := frame.report[2]
      screen := frame.report[3]
      payload := frame.bytes.drop headerSize
    }

/-- Write a result and the response kind over the first two bytes.  A frame that cannot carry
a response is left alone. -/
def markResponse (code : Verdict) (frame : Frame) : Frame :=
  if minResponse ≤ frame.length then
    { frame with report := (frame.report.set 0 code.toByte).set 1 ReportKind.response.toByte }
  else
    frame

/-- Write a result over the first byte. -/
def markResult (code : Verdict) (frame : Frame) : Frame :=
  if minResponse ≤ frame.length then
    { frame with report := frame.report.set 0 code.toByte }
  else
    frame

/-- The result in a frame that can carry one. -/
def result? (frame : Frame) : Option Verdict :=
  if minResponse ≤ frame.length then Verdict.ofByte? frame.report[0] else none

/-- Write as much of the payload as fits after the header, growing the frame to hold it. -/
def putPayload (payload : List UInt8) (frame : Frame) : Frame :=
  let kept := payload.take maxPayload
  { report := Vector.ofFn fun i =>
      if headerSize ≤ i.val then (kept[i.val - headerSize]?).getD frame.report[i]
      else frame.report[i]
    length := max frame.length (headerSize + kept.length) }

/-- Let the zeros behind the frame count, up to a full report. -/
def padded (frame : Frame) : Frame :=
  { frame with length := reportSize }

end Frame

end SplitPanel

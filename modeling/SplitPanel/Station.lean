import SplitPanel.Slots
import SplitPanel.Screen.Buffers

/-!
# Stations

A half runs the reports of the host at its station.  A report becomes its own response: the
result and the response kind in front, the rest as it came.  At the master's station, a frame
for the slave half is not looked at any further but parked in the outbox as it came.
-/

namespace SplitPanel

open Screen (Buffers Geometry GeometryFault)

/-- Why a frame was answered with a failure. -/
inductive RunFault where
  | frameTooShort
  | unknownScreen (screen : UInt8)
  | unknownCommand (command : UInt8)
  | missingPayload
  | lineOutOfBounds (line rows : UInt8)
  | notSlave
deriving DecidableEq, Repr

/-- What a frame did. -/
inductive Outcome where
  /-- It ran on the screen of this half. -/
  | applied (command : Command)
  /-- It was parked for the slave half, perhaps in place of one not sent yet. -/
  | relayed (overwritten : Bool)
deriving DecidableEq, Repr

/-- One half's screen and outbound slot. -/
structure Station (capacity : Nat) where
  role : Side
  screen : Buffers capacity
  outbox : Outbox
deriving DecidableEq

/-- A frame that did something: the station afterwards, what it did, and the payload that
answers it, if any. -/
structure Effect (capacity : Nat) where
  station : Station capacity
  outcome : Outcome
  payload : Option (List UInt8)

/-- A frame that was run: the station afterwards, the response, and how it went. -/
structure Execution (capacity : Nat) where
  station : Station capacity
  response : Frame
  outcome : Except RunFault Outcome

namespace Station

variable {capacity : Nat}

/-- The station of a half whose grid fits its buffers. -/
def make (role : Side) (geometry : Geometry) : Except GeometryFault (Station capacity) := do
  return { role, screen := ← Buffers.make geometry, outbox := .empty }

/-- Park a frame for the slave half. -/
def relay (inbound : Frame) (station : Station capacity) : Effect capacity :=
  let (outbox, overwritten) := station.outbox.send inbound.bytes
  { station := { station with outbox }, outcome := .relayed overwritten, payload := none }

/-- The text of a line ends at its first zero, since hosts fill reports up with zeros. -/
def lineText (bytes : List UInt8) : List UInt8 :=
  bytes.takeWhile (· != 0)

/-- Run a command on the screen of this half; the payload is what a set-up answers. -/
def runOnScreen (command : Command) (payload : List UInt8) (screen : Buffers capacity) :
    Except RunFault (Buffers capacity × Option (List UInt8)) :=
  match command with
  | .setUp => .ok (screen.clear, some [screen.geometry.cols, screen.geometry.rows])
  | .clear => .ok (screen.clear, none)
  | .present => .ok (screen.present, none)
  | .setLine =>
    match payload with
    | [] => .error .missingPayload
    | line :: text =>
      match screen.composeRow line (lineText text) with
      | .ok next => .ok (next, none)
      | .error (.outOfBounds line rows) => .error (.lineOutOfBounds line rows)

/-- Do what a frame asks for. -/
def effectOf (inbound : Frame) (station : Station capacity) :
    Except RunFault (Effect capacity) :=
  match inbound.request with
  | .error _ => .error .frameTooShort
  | .ok request =>
    match Side.ofByte? request.screen with
    | none => .error (.unknownScreen request.screen)
    | some target =>
      if target = .slave ∧ station.role = .master then
        .ok (station.relay inbound)
      else
        match Command.ofByte? request.command with
        | none => .error (.unknownCommand request.command)
        | some command =>
          match runOnScreen command request.payload station.screen with
          | .error e => .error e
          | .ok (screen, payload) =>
            .ok { station := { station with screen }, outcome := .applied command, payload }

/-- Write the payload of an answer, if there is one. -/
def answered (payload : Option (List UInt8)) (frame : Frame) : Frame :=
  match payload with
  | none => frame
  | some bytes => frame.putPayload bytes

/-- Run a frame and turn it into its response.  A frame that cannot carry a response is not
run. -/
def run (frame : Frame) (station : Station capacity) : Execution capacity :=
  if frame.length < minResponse then
    { station, response := frame, outcome := .error .frameTooShort }
  else
    let failed := frame.markResponse .failure
    match station.effectOf frame with
    | .error e => { station, response := failed, outcome := .error e }
    | .ok effect =>
      { station := effect.station
        response := (answered effect.payload failed).markResult .success
        outcome := .ok effect.outcome }

/-- The response to send for a frame that was run: only the master half answers. -/
def answer? (response : Frame) (station : Station capacity) : Option Frame :=
  if station.role = .master ∧ minResponse ≤ response.length then some response else none

/-- Run a report from the host, with the response to send back. -/
def serve (frame : Frame) (station : Station capacity) :
    Station capacity × Option Frame :=
  let execution := station.run frame
  (execution.station, execution.station.answer? execution.response)

/-- Run a frame that came over the link.  The slave half has no host to answer. -/
def runRelayed (bytes : List UInt8) (station : Station capacity) :
    Station capacity × Except RunFault Outcome :=
  if station.role = .master then
    (station, .error .notSlave)
  else
    match Frame.ofPrefix bytes with
    | .error _ => (station, .error .frameTooShort)
    | .ok frame =>
      let execution := station.run frame
      (execution.station, execution.outcome)

/-- Run the frame in the inbox, if there is a fresh one. -/
def runInbox (inbox : Inbox) (station : Station capacity) :
    Inbox × Station capacity × Option (Except RunFault Outcome) :=
  match inbox.take with
  | (emptied, none) => (emptied, station, none)
  | (emptied, some message) =>
    let (next, outcome) := station.runRelayed message.toList
    (emptied, next, some outcome)

end Station

end SplitPanel

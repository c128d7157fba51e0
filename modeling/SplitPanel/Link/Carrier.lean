import SplitPanel.Station
import SplitPanel.Link.Receiver

/-!
# Carrying frames over the link

The master half takes the parked frame out of its outbox and writes it as one packet; the slave
half runs every frame that arrives in a relay packet.
-/

namespace SplitPanel.Link

variable {capacity : Nat}

/-- The packet for a message of the outbox. -/
def relayPacket (message : Report) : Packet where
  kind := relayKind
  payload := message.toList

/-- Takes the parked frame, if there is one, with the bytes that carry it over the link. -/
def takeOutgoing (station : Station capacity) :
    Station capacity × Option (List UInt8) :=
  let (outbox, message) := station.outbox.take
  ({ station with outbox }, message.map fun message => (relayPacket message).encode)

/-- The slave half's end of the link. -/
structure Terminal where
  receiver : Receiver
  inbox : Inbox
deriving DecidableEq

/-- What one byte led to at the slave half's end. -/
inductive Arrival where
  /-- The packet is not complete, or there is none. -/
  | nothing
  /-- A frame was run. -/
  | ran (outcome : Except RunFault Outcome)
  /-- A packet of another kind was dropped. -/
  | unknownKind (kind : UInt8)
  | fault (cause : LinkFault)

namespace Terminal

def start : Terminal where
  receiver := .idle
  inbox := .empty

/-- Runs the payload of a relay packet. -/
def run (payload : List UInt8) (terminal : Terminal) (station : Station capacity) :
    Terminal × Station capacity × Arrival :=
  let (inbox, next, outcome) := station.runInbox (terminal.inbox.receive payload)
  ({ terminal with inbox }, next, match outcome with
    | some outcome => .ran outcome
    | none => .nothing)

/-- Takes one byte from the link. -/
def feed (byte : UInt8) (terminal : Terminal) (station : Station capacity) :
    Terminal × Station capacity × Arrival :=
  let (receiver, reception) := terminal.receiver.feed byte
  let terminal := { terminal with receiver }
  match reception with
  | .ok none => (terminal, station, .nothing)
  | .error cause => (terminal, station, .fault cause)
  | .ok (some packet) =>
    if packet.kind = relayKind then terminal.run packet.payload station
    else (terminal, station, .unknownKind packet.kind)

/-- Takes a run of bytes from the link, with what each led to. -/
def feedAll : List UInt8 → Terminal → Station capacity →
    Terminal × Station capacity × List Arrival
  | [], terminal, station => (terminal, station, [])
  | byte :: rest, terminal, station =>
    let (terminal, station, arrival) := terminal.feed byte station
    let (terminal, station, arrivals) := feedAll rest terminal station
    (terminal, station, arrival :: arrivals)

end Terminal

end SplitPanel.Link

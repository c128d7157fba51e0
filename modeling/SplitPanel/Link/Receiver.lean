import SplitPanel.Link.Packet

/-!
# Link receiver

The receiver takes the link one byte at a time.  Between packets it skips everything up to a
start byte; a length that no packet can have, and a wrong checksum, send it back there.
-/

namespace SplitPanel.Link

/-- How far the receiver is into a packet. -/
inductive Receiver where
  | idle
  | atLength
  | atKind (announced : UInt8)
  | inPayload (announced kind : UInt8) (collected : List UInt8)
  | atChecksum (announced kind : UInt8) (collected : List UInt8)
deriving DecidableEq, Repr

namespace Receiver

/-- What one byte led to: nothing yet, a packet, or a fault. -/
abbrev Reception : Type := Except LinkFault (Option Packet)

/-- Collects a payload byte.  There is always room, since no longer length is accepted. -/
def collect (collected : List UInt8) (byte : UInt8) : List UInt8 :=
  if collected.length < payloadLimit then collected ++ [byte] else collected

/-- Takes one byte. -/
def feed (byte : UInt8) : Receiver → Receiver × Reception
  | .idle => (if byte = startByte then .atLength else .idle, .ok none)
  | .atLength =>
    if payloadLimit < byte.toNat then (.idle, .error .invalidFrame)
    else (.atKind byte, .ok none)
  | .atKind announced =>
    (if announced = 0 then .atChecksum announced byte []
      else .inPayload announced byte [], .ok none)
  | .inPayload announced kind collected =>
    let collected := collect collected byte
    (if collected.length = announced.toNat then .atChecksum announced kind collected
      else .inPayload announced kind collected, .ok none)
  | .atChecksum announced kind collected =>
    if byte = Link.checksum announced kind collected then
      (.idle, .ok (some { kind, payload := collected }))
    else
      (.idle, .error .invalidChecksum)

/-- Drops what has been received of a packet. -/
def reset (_ : Receiver) : Receiver := .idle

/-- Takes a run of bytes, going on after faults, with what each byte led to. -/
def run : List UInt8 → Receiver → Receiver × List Reception
  | [], receiver => (receiver, [])
  | byte :: rest, receiver =>
    let (next, reception) := receiver.feed byte
    let (last, receptions) := run rest next
    (last, reception :: receptions)

theorem run_append (first second : List UInt8) (receiver : Receiver) :
    run (first ++ second) receiver =
      ((run second (run first receiver).1).1,
        (run first receiver).2 ++ (run second (run first receiver).1).2) := by
  induction first generalizing receiver with
  | nil => rfl
  | cons byte rest ih => simp [run, ih]

end Receiver

end SplitPanel.Link

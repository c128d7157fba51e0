import SplitPanel.Wire.Frame

/-!
# Link packets

Reports travel between the two halves over a byte stream, each wrapped in a packet: a start
byte, the length of the payload, a kind, the payload, and a checksum over all but the start
byte.
-/

namespace SplitPanel.Link

/-- The byte every packet starts with. -/
def startByte : UInt8 := 0xA5

/-- Room for a payload in a packet: one full report. -/
abbrev payloadLimit : Nat := reportSize

/-- The bytes around a payload. -/
abbrev overhead : Nat := 4

/-- The kind of packet that carries a report for the slave half. -/
def relayKind : UInt8 := 1

/-- What can go wrong on the link. -/
inductive LinkFault where
  | payloadTooLarge
  | invalidChecksum
  | invalidFrame
  | bufferTooSmall
deriving DecidableEq, Repr

/-- One message on the link. -/
structure Packet where
  kind : UInt8
  payload : List UInt8
deriving DecidableEq, Repr

/-- The exclusive or of the length, the kind and the payload. -/
def checksum (length kind : UInt8) (payload : List UInt8) : UInt8 :=
  payload.foldl (· ^^^ ·) (length ^^^ kind)

namespace Packet

/-- A packet of the given payload, if it has room for it. -/
def make (kind : UInt8) (payload : List UInt8) : Except LinkFault Packet :=
  if payload.length ≤ payloadLimit then .ok { kind, payload } else .error .payloadTooLarge

/-- A packet for the slave half. -/
def relay (payload : List UInt8) : Except LinkFault Packet :=
  make relayKind payload

/-- The bytes of a packet on the link. -/
def encode (packet : Packet) : List UInt8 :=
  let length := UInt8.ofNat packet.payload.length
  startByte :: length :: packet.kind ::
    (packet.payload ++ [checksum length packet.kind packet.payload])

/-- Writes the packet to the front of a buffer, and says how many bytes it took. -/
def encodeInto (packet : Packet) (buffer : List UInt8) : Except LinkFault (Nat × List UInt8) :=
  let size := packet.payload.length + overhead
  if buffer.length < size then
    .error .bufferTooSmall
  else
    .ok (size, packet.encode ++ buffer.drop size)

@[simp]
theorem length_encode (packet : Packet) :
    packet.encode.length = packet.payload.length + overhead := by
  simp [encode, overhead]

end Packet

end SplitPanel.Link

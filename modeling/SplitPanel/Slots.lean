import SplitPanel.Wire.Frame

/-!
# Relay slots

The host talks to the master half only.  A frame for the slave half is parked in the master's
outbox until the link carries it over, and lands in the slave's inbox.  Each has one slot and
nobody waits: a newer frame replaces one that was not sent yet.
-/

namespace SplitPanel

/-- The outbound slot of the master half.  It keeps its message after sending. -/
structure Outbox where
  message : Report
  pending : Bool
deriving DecidableEq

namespace Outbox

def empty : Outbox where
  message := Vector.replicate reportSize 0
  pending := false

/-- Park a frame, filled up with zeros, and say whether one not sent yet was overwritten. -/
def send (bytes : List UInt8) (outbox : Outbox) : Outbox × Bool :=
  ({ message := Report.ofBytes bytes, pending := true }, outbox.pending)

/-- Mark the frame as sent. -/
def markSent (outbox : Outbox) : Outbox :=
  { outbox with pending := false }

/-- Take the frame that has not been sent yet. -/
def take (outbox : Outbox) : Outbox × Option Report :=
  (outbox.markSent, if outbox.pending then some outbox.message else none)

end Outbox

/-- The inbound slot of the slave half. -/
structure Inbox where
  message : Report
  fresh : Bool
deriving DecidableEq

namespace Inbox

def empty : Inbox where
  message := Vector.replicate reportSize 0
  fresh := false

/-- Store the frame that the link has just received. -/
def receive (bytes : List UInt8) (_ : Inbox) : Inbox where
  message := Report.ofBytes bytes
  fresh := true

/-- Take a received frame once. -/
def take (inbox : Inbox) : Inbox × Option Report :=
  ({ inbox with fresh := false }, if inbox.fresh then some inbox.message else none)

end Inbox

end SplitPanel

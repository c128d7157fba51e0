import SplitPanel.Wire.TagEvent

/-!
# Event sources

Events are reports that nobody asked for.  Only the master half has a host to send them to.
-/

namespace SplitPanel.Keys

/-- Why an event was not sent: this half has no host, or the sink refused the report. -/
inductive SendFault (ε : Type) where
  | notMaster
  | sink (cause : ε)
deriving DecidableEq, Repr

/-- Somewhere to put reports for the host.  A refused report changes nothing. -/
class ReportSink (σ : Type) (ε : outParam Type) where
  accept : Report → σ → Except ε σ

/-- A half that emits events into a sink. -/
structure EventSource (σ : Type) where
  role : Side
  sink : σ

namespace EventSource

variable {σ ε : Type} [ReportSink σ ε]

/-- Put one report into the sink. -/
def send (frame : Frame) (source : EventSource σ) : Except (SendFault ε) (EventSource σ) :=
  if source.role = .master then
    match ReportSink.accept frame.report source.sink with
    | .ok sink => .ok { source with sink }
    | .error cause => .error (.sink cause)
  else
    .error .notMaster

/-- Send a tag event to the host. -/
def emit (event : TagEvent) (source : EventSource σ) : Except (SendFault ε) (EventSource σ) :=
  source.send event.toFrame

/-- Send an event with any arguments, as many as fit. -/
def emitBytes (id : EventCode) (arguments : List UInt8) (source : EventSource σ) :
    Except (SendFault ε) (EventSource σ) :=
  source.send (frameOfEvent id arguments)

end EventSource

end SplitPanel.Keys

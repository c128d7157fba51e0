import SplitPanel.Board.Config
import SplitPanel.Half.Outlet
import SplitPanel.Keys.ReportQueue
import SplitPanel.Keys.Scanner
import SplitPanel.Link.Carrier
import SplitPanel.Screen.Drawing
import SplitPanel.Screen.Panel

/-!
# A keyboard half

One half runs five tasks beside its matrix: one for the keys, one for the host, two for the ends
of the link, and one for the panel.  They take turns: a task is interrupted only where it waits,
so what is described here is the half as it is between two such points.

The tasks share the station, two queues and two signals.  A task waits for the station
before it uses it, and never waits while it does, so between two steps nobody holds it.  A
signal is a flag that the waiting task clears when it goes on.
-/

namespace SplitPanel

open Screen (CharGrid LayerMask NamedLayers PanelText)

/-- Where the task that serves the host waits. -/
inductive HostTask where
  /-- For a report from the host, or for an event to send. -/
  | listening
  /-- For the station, with a frame to run. -/
  | holding (frame : Frame)
  /-- For a report to be written. -/
  | writing (report : Report)
deriving DecidableEq

/-- Where the task goes on after it has run a frame. -/
def HostTask.replying : Option Frame → HostTask
  | some response => .writing response.report
  | none => .listening

/-- Where the task that writes to the link waits. -/
inductive LinkTask where
  /-- For the signal that a frame is parked. -/
  | waiting
  /-- For the station, after the signal. -/
  | woken
  /-- For a packet to be written. -/
  | writing (packet : List UInt8)
deriving DecidableEq

/-- Where the task goes on after it has looked for a parked frame. -/
def LinkTask.sending : Option (List UInt8) → LinkTask
  | some packet => .writing packet
  | none => .waiting

/-- What a read from the host or the link comes to. -/
inductive Arriving where
  | data (bytes : List UInt8)
  | failure
deriving DecidableEq

/-- One half of the keyboard. -/
structure Half (capacity rows cols : Nat) where
  station : Station capacity
  layerNames : List String
  scanner : Keys.Scanner rows cols
  /-- Keys on their way to the selector. -/
  keyEvents : List Keys.KeyEvent
  selector : Keys.Selector
  /-- Puts events into the queue of those waiting for the host. -/
  eventSource : Keys.EventSource Keys.ReportQueue
  /-- The signal that a frame is parked. -/
  relayPending : Bool
  /-- The signal that the screen has changed. -/
  screenChanged : Bool
  /-- Whether the panel is due to be redrawn, changed or not. -/
  redrawDue : Bool
  hostTask : HostTask
  linkTask : LinkTask
  terminal : Link.Terminal
  /-- What the panel shows or should show, unless it could not be started. -/
  shown : Option (CharGrid capacity)
  /-- The switches that are closed. -/
  closed : Keys.Grid rows cols Bool
  fromHost : List Arriving
  fromLink : List Arriving
  toHost : Outlet Report
  toLink : Outlet (List UInt8)
  toPanel : Outlet (List PanelText)
  /-- The whole milliseconds since the start. -/
  elapsed : Nat

/-- The number of keys that can be on their way. -/
def keyEventRoom : Nat := 16

/-- The number of events that can wait for the host. -/
def eventRoom : Nat := 4

namespace Half

variable {capacity rows cols : Nat}

/-- A half as it is before its tasks first run. -/
def make (config : Board.Config) (keymap : Keys.Keymap rows cols) (role : Side)
    (panelStarts : Bool) : Except Screen.GeometryFault (Half config.geometry.cells rows cols) := do
  let station ← Station.make role config.geometry
  return {
    station
    layerNames := config.layerNames
    scanner := .start keymap
    keyEvents := []
    selector := .idle
    eventSource := { role, sink := .empty (some eventRoom) }
    relayPending := false
    screenChanged := false
    redrawDue := true
    hostTask := .listening
    linkTask := .waiting
    terminal := .start
    shown := if panelStarts then some (.blank config.geometry) else none
    closed := Keys.Grid.replicate rows cols false
    fromHost := []
    fromLink := []
    toHost := .ready
    toLink := .ready
    toPanel := .ready
    elapsed := 0 }

/-- The layers turned on. -/
def layersOn (half : Half capacity rows cols) : LayerMask :=
  half.scanner.keymap.state

/-- The layers a screen can show by name. -/
def layers (half : Half capacity rows cols) : NamedLayers where
  names := half.layerNames
  state := half.layersOn

end Half

end SplitPanel

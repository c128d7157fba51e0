import SplitPanel.Half.Basic

/-!
# Tasks of a half

Each task is a step function: what it does from one point where it waits to the next, or nothing
if it has to go on waiting.
-/

namespace SplitPanel

/-- The tasks of a half. -/
inductive Task where
  | keys
  | host
  | sender
  | receiver
  | panel
deriving DecidableEq, Repr

namespace Half

open Screen (Display CharGrid DisplayFault)

variable {capacity rows cols : Nat}

/-! ## Keys -/

/-- Takes the next key to the selector.  An event is queued for the host; on the half without
one, and when the queue is full, it is dropped. -/
def stepKeys (half : Half capacity rows cols) : Option (Half capacity rows cols) :=
  match half.keyEvents with
  | [] => none
  | event :: rest =>
    let (selector, outcome) := half.selector.process event.key event.pressed
    let eventSource := match outcome with
      | .emit tag => (half.eventSource.emit tag).toOption.getD half.eventSource
      | _ => half.eventSource
    some { half with keyEvents := rest, selector, eventSource }

/-! ## Host -/

/-- Sets the signal of the task that an outcome concerns. -/
def signalOutcome (outcome : Except RunFault Outcome) (half : Half capacity rows cols) :
    Half capacity rows cols :=
  match outcome with
  | .ok (.applied _) => { half with screenChanged := true }
  | .ok (.relayed _) => { half with relayPending := true }
  | .error _ => half

/-- Runs a frame of the host, and goes on to write the response if there is one. -/
def runFrame (frame : Frame) (half : Half capacity rows cols) : Half capacity rows cols :=
  let execution := half.station.run frame
  signalOutcome execution.outcome { half with
    station := execution.station
    hostTask := .replying (execution.station.answer? execution.response) }

/-- Takes the next report from the host, or else the next event. -/
def listen (half : Half capacity rows cols) : Option (Half capacity rows cols) :=
  match half.fromHost with
  | .data bytes :: fromHost =>
    match Frame.ofBytes bytes with
    | .ok frame => some { half with fromHost, hostTask := .holding frame }
    | .error _ => some { half with fromHost }
  | .failure :: fromHost => some { half with fromHost }
  | [] =>
    match half.eventSource.sink.reports with
    | [] => none
    | report :: reports =>
      let sink := { half.eventSource.sink with reports }
      some { half with eventSource := { half.eventSource with sink }, hostTask := .writing report }

/-- Serves the host.  Only the master half has one. -/
def stepHost (half : Half capacity rows cols) : Option (Half capacity rows cols) :=
  if half.station.role = .slave then
    none
  else
    match half.hostTask with
    | .listening => half.listen
    | .holding frame => some (half.runFrame frame)
    | .writing report =>
      (half.toHost.write? report).map fun toHost => { half with toHost, hostTask := .listening }

/-! ## Link -/

/-- Writes parked frames to the link: waits for the signal, takes what is parked, and writes it.
Only the master half does. -/
def stepSender (half : Half capacity rows cols) : Option (Half capacity rows cols) :=
  if half.station.role = .slave then
    none
  else
    match half.linkTask with
    | .waiting =>
      if half.relayPending then some { half with relayPending := false, linkTask := .woken }
      else none
    | .woken =>
      let taken := Link.takeOutgoing half.station
      some { half with station := taken.1, linkTask := .sending taken.2 }
    | .writing packet =>
      (half.toLink.write? packet).map fun toLink => { half with toLink, linkTask := .waiting }

/-- Takes one byte from the link. -/
def receiveByte (byte : UInt8) (half : Half capacity rows cols) : Half capacity rows cols :=
  let (terminal, station, arrival) := half.terminal.feed byte half.station
  let half := { half with terminal, station }
  match arrival with
  | .ran (.ok (.applied _)) => { half with screenChanged := true }
  | _ => half

/-- Reads from the link.  Only the slave half does. -/
def stepReceiver (half : Half capacity rows cols) : Option (Half capacity rows cols) :=
  if half.station.role = .master then
    none
  else
    match half.fromLink with
    | [] => none
    | .data (byte :: rest) :: fromLink =>
      some (receiveByte byte { half with fromLink := .data rest :: fromLink })
    | .data [] :: fromLink => some { half with fromLink }
    | .failure :: fromLink => some { half with fromLink }

/-! ## Panel -/

/-- The longest layer name that is shown while the host has not put anything up. -/
def defaultNameLimit : Nat := 32

/-- Draws what a half shows while the host has not put anything up. -/
def drawOwnScreen (half : Half capacity rows cols) (grid : CharGrid capacity) :
    CharGrid capacity × Except DisplayFault Unit :=
  match half.station.role with
  | .slave => Display.writeRow (Text.utf8 "oledctrl") grid
  | .master =>
    let name := Text.utf8 half.layers.text
    match Display.writeText (Text.utf8 "Layer: ") grid with
    | (drawn, .ok ()) =>
      Display.writeRow (if name.length ≤ defaultNameLimit then name else []) drawn
    | failed => failed

/-- What the panel should show.  What was drawn before an error stays. -/
def frame (half : Half capacity rows cols) : CharGrid capacity :=
  let blank := CharGrid.blank half.station.screen.geometry
  match half.station.screen.draw half.layers.source blank with
  | (drawn, .ok false) => (half.drawOwnScreen drawn).1
  | (drawn, _) => drawn

/-- Redraws the panel. -/
def redraw (shown : CharGrid capacity) (half : Half capacity rows cols) :
    Half capacity rows cols :=
  match shown.refresh half.frame (!half.toPanel.failing) with
  | (shown, none) => { half with shown := some shown }
  | (shown, some sent) =>
    { half with shown := some shown, toPanel := half.toPanel.put sent.panelTexts }

/-- Redraws the panel when it is due, or when the screen has changed.  Without a panel there is
nothing to do. -/
def stepPanel (half : Half capacity rows cols) : Option (Half capacity rows cols) :=
  match half.shown with
  | none => none
  | some shown =>
    if half.redrawDue then some (redraw shown { half with redrawDue := false })
    else if half.screenChanged then some (redraw shown { half with screenChanged := false })
    else none

/-! ## Turns -/

/-- One step of a task, or nothing if it waits. -/
def step (task : Task) (half : Half capacity rows cols) : Option (Half capacity rows cols) :=
  match task with
  | .keys => half.stepKeys
  | .host => half.stepHost
  | .sender => half.stepSender
  | .receiver => half.stepReceiver
  | .panel => half.stepPanel

end Half

end SplitPanel

import SplitPanel.Host.Connection
import SplitPanel.Wire.Request
import SplitPanel.Wire.Response
import SplitPanel.Wire.TagEvent
import SplitPanel.Text.Bytes

/-!
# Conversations

The host sends the keyboard one request at a time and waits for the response to it.  Events that the
keyboard sends in between are queued, in the order they came, and handed out when asked for.
-/

namespace SplitPanel.Host

/-- How long to wait for a response. -/
def responseWait : Nat := 500000

/-- The pause after each line, since the slave half loses frames that come too fast. -/
def defaultLineDelay : Nat := 10000

/-- A connection with what the host knows about the keyboard behind it. -/
structure Conversation (σ : Type) where
  connection : σ
  /-- Columns and rows, once a set-up reported them. -/
  geometry : Option (UInt8 × UInt8) := none
  /-- Events not handed out yet, oldest first. -/
  events : List TagEvent := []
  timeout : Nat := responseWait
  lineDelay : Nat := defaultLineDelay

/-- The event in a frame, if it is one. -/
def eventOf? (frame : Frame) : Option TagEvent :=
  match TagEvent.ofBytes frame.bytes with
  | .ok event => event
  | .error _ => none

/-- What a frame says about a request, if it is the response to it. -/
def verdict? (request : Request) (frame : Frame) : Option (Except HostFault Frame) :=
  match Response.ofBytes frame.bytes with
  | .ok (some response) =>
    if response.command = request.command.toByte ∧ response.screen = request.screen.toByte then
      match response.result with
      | .success => some (.ok frame)
      | .failure => some (.error (.rejected request.command request.screen))
    else
      none
  | _ => none

namespace Conversation

variable {σ : Type} [Connection σ]

/-- Reads until the response to a request comes or the deadline is over.  Events are queued;
all other reports are skipped. -/
def awaitResponse (request : Request) (deadline : Nat) (conversation : Conversation σ) :
    Conversation σ × Except HostFault Frame :=
  let clocked := Connection.clock conversation.connection
  let remaining := deadline - clocked.2
  if _over : remaining = 0 then
    ({ conversation with connection := clocked.1 },
      .error (.timeout request.command request.screen))
  else
    match _received : Connection.read remaining clocked.1 with
    | (connection, .error e) => ({ conversation with connection }, .error e)
    | (connection, .ok none) =>
      ({ conversation with connection }, .error (.timeout request.command request.screen))
    | (connection, .ok (some frame)) =>
      match eventOf? frame with
      | some event =>
        awaitResponse request deadline
          { conversation with connection, events := conversation.events ++ [event] }
      | none =>
        match verdict? request frame with
        | some verdict => ({ conversation with connection }, verdict)
        | none => awaitResponse request deadline { conversation with connection }
termination_by Connection.stock deadline conversation.connection
decreasing_by
  all_goals exact Connection.stock_read_lt _ _ _ _ _over _received

/-- Sends a request and waits for the response to it. -/
def request (request : Request) (conversation : Conversation σ) :
    Conversation σ × Except HostFault Frame :=
  match Connection.write request.toFrame.report conversation.connection with
  | (connection, .error e) => ({ conversation with connection }, .error e)
  | (connection, .ok ()) =>
    let (connection, now) := Connection.clock connection
    awaitResponse request (now + conversation.timeout) { conversation with connection }

/-- The screen size in a response to a set-up. -/
def reportedSize (frame : Frame) : Except HostFault (UInt8 × UInt8) :=
  match Response.ofBytes frame.bytes with
  | .error e => .error (.malformed e)
  | .ok response =>
    match response.bind Response.screenSize? with
    | some (cols, rows) =>
      if 0 < cols ∧ 0 < rows then .ok (cols, rows) else .error (.badGeometry cols rows)
    | none => .error (.badGeometry 0 0)

/-- Clears the master screen and learns the screen size. -/
def learnSize (conversation : Conversation σ) : Conversation σ × Except HostFault (UInt8 × UInt8) :=
  match conversation.request (.setUp .master) with
  | (conversation, .error e) => (conversation, .error e)
  | (conversation, .ok frame) =>
    match reportedSize frame with
    | .error e => (conversation, .error e)
    | .ok size => ({ conversation with geometry := some size }, .ok size)

/-- Sends a request of which only success matters. -/
def command (asked : Request) (conversation : Conversation σ) :
    Conversation σ × Except HostFault Unit :=
  match conversation.request asked with
  | (conversation, .error e) => (conversation, .error e)
  | (conversation, .ok _) => (conversation, .ok ())

def clear (screen : Side) (conversation : Conversation σ) :
    Conversation σ × Except HostFault Unit :=
  conversation.command (.clear screen)

/-- Waits a moment after a line, if there is a delay. -/
def pauseAfterLine (conversation : Conversation σ) : Conversation σ :=
  if conversation.lineDelay = 0 then
    conversation
  else
    let { connection, lineDelay, .. } := conversation
    { conversation with connection := Connection.pause lineDelay connection }

/-- Sends lines one by one, the first of them for row `line`. -/
def sendLines (screen : Side) : Nat → List String → Conversation σ →
    Conversation σ × Except HostFault Unit
  | _, [], conversation => (conversation, .ok ())
  | line, text :: rest, conversation =>
    match conversation.command (.setLine screen (UInt8.ofNat line) (Text.utf8 text)) with
    | (conversation, .error e) => (conversation, .error e)
    | (conversation, .ok ()) => sendLines screen (line + 1) rest conversation.pauseAfterLine

/-- The rows that lines are sent for; before a set-up, as many as a screen can have. -/
def rows (conversation : Conversation σ) : Nat :=
  match conversation.geometry with
  | some (_, rows) => rows.toNat
  | none => 255

/-- Replaces the content of a screen and shows it.  Lines past the bottom are dropped; long
lines are cut off by the keyboard. -/
def showScreen (screen : Side) (lines : List String) (conversation : Conversation σ) :
    Conversation σ × Except HostFault Unit :=
  match conversation.sendLines screen 0 (lines.take conversation.rows) with
  | (conversation, .error e) => (conversation, .error e)
  | (conversation, .ok ()) => conversation.command (.present screen)

/-- Reads until an event comes or the deadline is over.  One more report is read when it is. -/
def awaitEvent (deadline : Nat) (conversation : Conversation σ) :
    Conversation σ × Except HostFault (Option TagEvent) :=
  let clocked := Connection.clock conversation.connection
  let remaining := deadline - clocked.2
  match _received : Connection.read remaining clocked.1 with
  | (connection, .error e) => ({ conversation with connection }, .error e)
  | (connection, .ok none) => ({ conversation with connection }, .ok none)
  | (connection, .ok (some frame)) =>
    match eventOf? frame with
    | some event => ({ conversation with connection }, .ok (some event))
    | none =>
      if _over : remaining = 0 then ({ conversation with connection }, .ok none)
      else awaitEvent deadline { conversation with connection }
termination_by Connection.stock deadline conversation.connection
decreasing_by exact Connection.stock_read_lt _ _ _ _ _over _received

/-- The next event, waiting some time for one if none is queued. -/
def nextEvent (wait : Nat) (conversation : Conversation σ) :
    Conversation σ × Except HostFault (Option TagEvent) :=
  match conversation.events with
  | event :: rest => ({ conversation with events := rest }, .ok (some event))
  | [] =>
    let (connection, now) := Connection.clock conversation.connection
    awaitEvent (now + wait) { conversation with connection }

end Conversation

end SplitPanel.Host

import SplitPanel.Host.Conversation
import SplitPanel.Host.Options
import SplitPanel.Host.Usage

/-!
# Session with one keyboard

A session drives one connected keyboard until it goes away or the user stops it.  The master
screen shows the active layer, a message and the tags, and is drawn again whenever a tag
changes; the slave screen shows statistics, drawn again at a fixed interval.

A session also keeps a journal of what it asked of the keyboard and what came of it.
-/

namespace SplitPanel.Host

/-- The longest wait for an event before looking at the clock again. -/
def longestPoll : Nat := 100000

/-- What a session needs besides its connection. -/
class Surroundings (σ : Type) extends Connection σ where
  /-- Whether the user has not stopped the session yet. -/
  running : σ → σ × Bool
  /-- Samples the usage of the computer. -/
  sample : σ → σ × Usage

/-- One thing a session asked of the keyboard, with what came of it. -/
inductive Activity where
  | setUp (size : Except HostFault (UInt8 × UInt8))
  | drew (screen : Side) (lines : List String) (result : Except HostFault Unit)
  | polled (event : Except HostFault (Option TagEvent))
  | cleared (screen : Side) (result : Except HostFault Unit)

/-- A session under way. -/
structure Session (σ : Type) where
  conversation : Conversation σ
  tags : TagBoard
  /-- When the statistics are due. -/
  nextStats : Nat
  /-- Everything done so far, in order. -/
  journal : List Activity

/-- Whether a session came to its end, or is still running after the turns it was given. -/
inductive SessionEnd where
  | stopped
  | running
deriving DecidableEq, Repr

/-- A part of a session, which an error ends. -/
abbrev SessionM (σ : Type) : Type → Type := ExceptT HostFault (StateM (Session σ))

namespace Session

variable {σ : Type}

/-- A session that has not done anything yet. -/
def start (connection : σ) (options : Options) : Session σ where
  conversation := { connection }
  tags := TagBoard.make options.tags
  nextStats := 0
  journal := []

/-- Has the conversation do something and notes it in the journal. -/
def perform {α : Type} (act : Conversation σ → Conversation σ × Except HostFault α)
    (note : Except HostFault α → Activity) : SessionM σ α :=
  ExceptT.mk fun session =>
    let (conversation, result) := act session.conversation
    (result, { session with conversation, journal := session.journal ++ [note result] })

/-- Asks the connection something that cannot fail. -/
def ask {α : Type} (question : σ → σ × α) : SessionM σ α :=
  ExceptT.mk fun session =>
    let (connection, answer) := question session.conversation.connection
    (.ok answer, { session with conversation := { session.conversation with connection } })

variable [Surroundings σ]

def showScreen (screen : Side) (lines : List String) : SessionM σ Unit :=
  perform (·.showScreen screen lines) (.drew screen lines)

def clearScreen (screen : Side) : SessionM σ Unit :=
  perform (·.clear screen) (.cleared screen)

/-- Draws the master screen for the current tags. -/
def drawMaster (options : Options) : SessionM σ Unit := do
  showScreen .master (options.masterScreen (← get).tags)

/-- Draws the statistics when they are due. -/
def drawStats (options : Options) (cols : UInt8) : SessionM σ Unit := do
  let now ← ask Connection.clock
  if (← get).nextStats ≤ now then
    let usage ← ask Surroundings.sample
    showScreen .slave (usage.lines cols)
    modify fun session => { session with nextStats := now + options.intervalMs.toNat * 1000 }

/-- Waits for an event, until the statistics are due but not for too long, and follows it. -/
def followEvent (options : Options) : SessionM σ Unit := do
  let now ← ask Connection.clock
  let wait := min ((← get).nextStats - now) longestPoll
  match ← perform (·.nextEvent wait) .polled with
  | none => pure ()
  | some event =>
    let (tags, changed) := (← get).tags.follow event
    modify fun session => { session with tags }
    if changed.isSome then
      drawMaster options

/-- Takes turns until the user stops the session. -/
def takeTurns (options : Options) (cols : UInt8) : Nat → SessionM σ SessionEnd
  | 0 => pure .running
  | limit + 1 => do
    if ← ask Surroundings.running then
      drawStats options cols
      followEvent options
      takeTurns options cols limit
    else
      pure .stopped

/-- Everything from the set-up to clearing both screens, with a limit on the turns. -/
def drive (options : Options) (limit : Nat) : SessionM σ SessionEnd := do
  let (cols, _) ← perform Conversation.learnSize .setUp
  drawMaster options
  let now ← ask Connection.clock
  modify fun session => { session with nextStats := now }
  match ← takeTurns options cols limit with
  | .running => return .running
  | .stopped =>
    clearScreen .master
    clearScreen .slave
    return .stopped

/-- Runs a session over a connection. -/
def run (options : Options) (limit : Nat) (connection : σ) :
    Session σ × Except HostFault SessionEnd :=
  let (result, session) := (drive options limit).run (start connection options)
  (session, result)

end Session

end SplitPanel.Host

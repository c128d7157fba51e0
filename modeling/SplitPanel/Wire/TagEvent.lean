import SplitPanel.Wire.Frame

/-!
# Tag events

The master half tells the host about its tag keys in reports of its own.  An event report is
always full length; its first byte says success and is not looked at by the reader.
-/

namespace SplitPanel

/-- A change of the tag of one screen. -/
inductive TagEvent where
  | setTag (screen : Side) (tag : UInt8)
  | increment (screen : Side)
  | decrement (screen : Side)
deriving DecidableEq, Repr

/-- Room for the arguments of an event. -/
abbrev maxEventArguments : Nat := reportSize - headerSize

/-- The report of an event with as many of the arguments as fit. -/
def frameOfEvent (id : EventCode) (arguments : List UInt8) : Frame :=
  Frame.ofReport (Report.ofBytes
    (Verdict.success.toByte :: ReportKind.event.toByte :: id.toByte ::
      arguments.take maxEventArguments))

namespace TagEvent

def id : TagEvent → EventCode
  | .setTag _ _ => .setTag
  | .increment _ => .increment
  | .decrement _ => .decrement

def screen : TagEvent → Side
  | .setTag screen _ => screen
  | .increment screen => screen
  | .decrement screen => screen

/-- The bytes after the event code. -/
def arguments : TagEvent → List UInt8
  | .setTag screen tag => [screen.toByte, tag]
  | .increment screen => [screen.toByte]
  | .decrement screen => [screen.toByte]

def toFrame (event : TagEvent) : Frame :=
  frameOfEvent event.id event.arguments

/-- Reads an event; `none` for a report that is none. -/
def ofBytes : List UInt8 → Except FrameFault (Option TagEvent)
  | _ :: kind :: id :: screen :: rest =>
    if ReportKind.ofByte? kind = some .event then
      match Side.ofByte? screen, EventCode.ofByte? id with
      | some screen, some .setTag => .ok (rest.head?.map (.setTag screen))
      | some screen, some .increment => .ok (some (.increment screen))
      | some screen, some .decrement => .ok (some (.decrement screen))
      | _, _ => .ok none
    else
      .ok none
  | _ => .error .tooShort

end TagEvent

end SplitPanel

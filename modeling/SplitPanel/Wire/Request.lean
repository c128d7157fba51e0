import SplitPanel.Wire.Frame

/-!
# Requests of the host

A request names a screen and what to do with it.  Its frame starts with the two bypass bytes,
and the text of a line is cut to what fits behind the line number.
-/

namespace SplitPanel

/-- What the host asks of one screen. -/
inductive Request where
  | setUp (screen : Side)
  | clear (screen : Side)
  | setLine (screen : Side) (line : UInt8) (text : List UInt8)
  | present (screen : Side)
deriving DecidableEq, Repr

namespace Request

def command : Request → Command
  | .setUp _ => .setUp
  | .clear _ => .clear
  | .setLine _ _ _ => .setLine
  | .present _ => .present

def screen : Request → Side
  | .setUp screen => screen
  | .clear screen => screen
  | .setLine screen _ _ => screen
  | .present screen => screen

/-- The bytes a request carries after its header. -/
def payload : Request → List UInt8
  | .setLine _ line text => line :: text
  | _ => []

/-- The two bytes a request starts with, which the keyboard never looks at. -/
def bypass : UInt8 × UInt8 := (2, 0)

def toFrame (request : Request) : Frame :=
  Frame.ofParts
    #v[bypass.1, bypass.2, request.command.toByte, request.screen.toByte] request.payload

end Request

end SplitPanel

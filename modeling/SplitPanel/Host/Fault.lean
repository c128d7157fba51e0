import SplitPanel.Wire.Frame

/-!
# Host faults

Everything that can end a conversation with the keyboard, with the text the user gets to see.
-/

namespace SplitPanel.Host

/-- What the HID layer reports when a read or a write fails. -/
inductive HidFault where
  | api (message : String)
  | apiWithoutMessage
  | initialization
  | zeroSize
  | incompleteSend (sent total : Nat)
deriving DecidableEq, Repr

namespace HidFault

def message : HidFault → String
  | .api message => "hidapi error: " ++ message
  | .apiWithoutMessage => "hidapi error: (could not get error message)"
  | .initialization => "Failed to initialize hidapi"
  | .zeroSize => "Invalid data: size can not be 0"
  | .incompleteSend sent total =>
    "Failed to send all data: only sent " ++ toString sent ++ " out of " ++ toString total ++
      " bytes"

end HidFault

/-- Why the host gave up. -/
inductive HostFault where
  | deviceNotFound (vid pid : UInt16)
  | hid (message : String)
  | permissionDenied (message : String)
  | timeout (command : Command) (screen : Side)
  | rejected (command : Command) (screen : Side)
  | badGeometry (cols rows : UInt8)
  | malformed (cause : FrameFault)
deriving DecidableEq, Repr

/-- Whether a text occurs in another. -/
def occursIn (pattern : List Char) : List Char → Bool
  | [] => pattern.isEmpty
  | c :: rest => pattern.isPrefixOf (c :: rest) || occursIn pattern rest

/-- A number as at least four hexadecimal digits. -/
def hexWord (value : UInt16) : String :=
  let digits := (Nat.toDigits 16 value.toNat).map Char.toUpper
  "0x" ++ String.ofList (List.replicate (4 - digits.length) '0' ++ digits)

def commandTitle : Command → String
  | .setUp => "SetUp"
  | .clear => "Clear"
  | .setLine => "SetLine"
  | .present => "Present"

def screenTitle : Side → String
  | .master => "Master"
  | .slave => "Slave"

def frameFaultTitle : FrameFault → String
  | .empty => "Empty"
  | .tooLong => "TooLong"
  | .tooShort => "TooShort"

namespace HostFault

/-- A fault whose text speaks of missing permission is told apart. -/
def ofHidFault (fault : HidFault) : HostFault :=
  let message := fault.message
  if occursIn "Permission denied".toList message.toList ∨ occursIn "EPERM".toList message.toList
  then .permissionDenied message
  else .hid message

def message : HostFault → String
  | .deviceNotFound vid pid =>
    "No keyboard found with VID " ++ hexWord vid ++ " PID " ++ hexWord pid
  | .hid message => "HID error: " ++ message
  | .permissionDenied message => "HID permission denied: " ++ message
  | .timeout command screen =>
    "No response to " ++ commandTitle command ++ " on the " ++ screenTitle screen ++ " screen"
  | .rejected command screen =>
    "Keyboard rejected " ++ commandTitle command ++ " on the " ++ screenTitle screen ++ " screen"
  | .badGeometry cols rows =>
    "Set up reported an unusable screen size " ++ toString cols.toNat ++ "x" ++
      toString rows.toNat
  | .malformed cause => "Malformed report: " ++ frameFaultTitle cause

end HostFault

end SplitPanel.Host

import SplitPanel.Host.TagBoard
import SplitPanel.Text.Number

/-!
# Command line options

Every option takes one value, as the next argument or behind an equals sign.  A value behind an
equals sign is checked at once; one that is an argument of its own is checked when the next
option begins or the arguments end, and an argument that nobody expects is reported before it.
-/

namespace SplitPanel.Host

/-- The options there are. -/
inductive OptionName where
  | vid
  | pid
  | interface
  | message
  | intervalMs
  | disk
  | tags
deriving DecidableEq, Repr

namespace OptionName

/-- The option with this name behind its two dashes. -/
def ofText? : String → Option OptionName
  | "vid" => some .vid
  | "pid" => some .pid
  | "interface" => some .interface
  | "message" => some .message
  | "interval-ms" => some .intervalMs
  | "disk" => some .disk
  | "tags" => some .tags
  | _ => none

end OptionName

/-- What the user can choose. -/
structure Options where
  /-- USB vendor of the keyboard. -/
  vid : UInt16 := 0x04D8
  /-- USB product of the keyboard. -/
  pid : UInt16 := 0xEB2D
  /-- Raw HID interface, for platforms that do not report usage pages. -/
  interface : Option Int32 := none
  /-- Second line of the master screen. -/
  message : String := "You look great today!"
  /-- Time between two statistics screens, in milliseconds. -/
  intervalMs : UInt64 := 1000
  /-- Mount point of the disk that is watched. -/
  disk : String := "/"
  /-- Number of tags of each screen. -/
  tags : UInt8 := 10
deriving DecidableEq, Repr

/-- Why the arguments do not start a session. -/
inductive UsageError where
  | valueValidation
  | invalidValue
  | unknownArgument
  | argumentConflict
  | tooManyValues
  | helpRequested
  | versionRequested
deriving DecidableEq, Repr

/-- Drops a text from the front of another as often as it stands there. -/
def dropRepeated (pattern : List Char) (fuel : Nat) (text : List Char) : List Char :=
  match fuel with
  | 0 => text
  | fuel + 1 =>
    if pattern.isPrefixOf text then dropRepeated pattern fuel (text.drop pattern.length) else text

/-- Reads a hexadecimal word, with or without its mark. -/
def readHexWord (text : String) : Except Text.NumberFault UInt16 :=
  let chars := text.toList
  let digits := dropRepeated ['0', 'X'] chars.length (dropRepeated ['0', 'x'] chars.length chars)
  (Text.readNatural 16 0xFFFF digits).map UInt16.ofNat

/-- Reads a decimal number between two bounds. -/
def parseBetween (low high : Int) (text : String) : Option Int :=
  match Text.readInteger text.toList with
  | .ok value => if low ≤ value ∧ value ≤ high then some value else none
  | .error _ => none

namespace Options

/-- The value of an option that parsed, or a complaint that it did not. -/
def checked {α : Type} : Option α → Except UsageError α
  | some value => .ok value
  | none => .error .valueValidation

/-- Set one option to the value in a text. -/
def set (name : OptionName) (text : String) (options : Options) : Except UsageError Options :=
  match name with
  | .vid => do return { options with vid := ← checked (readHexWord text).toOption }
  | .pid => do return { options with pid := ← checked (readHexWord text).toOption }
  | .interface => do
    let value ← checked (parseBetween Int32.minValue.toInt Int32.maxValue.toInt text)
    return { options with interface := some (Int32.ofInt value) }
  | .message => .ok { options with message := text }
  | .intervalMs => do
    let value ← checked (Text.readNatural 10 (UInt64.size - 1) text.toList).toOption
    return { options with intervalMs := UInt64.ofNat value }
  | .disk => if text.isEmpty then .error .invalidValue else .ok { options with disk := text }
  | .tags => do
    let value ← checked (parseBetween 0 255 text)
    return { options with tags := UInt8.ofNat value.toNat }

end Options

/-- What has been read of the arguments: the options given so far, and one that is not settled
yet, with its value if that has come. -/
structure Arguments where
  options : Options
  given : List OptionName
  pending : Option (OptionName × Option String)

namespace Arguments

def start : Arguments where
  options := {}
  given := []
  pending := none

/-- Use the value of an option.  A missing value is reported before a second use of the option,
and that before a value that does not parse. -/
def accept (name : OptionName) (value : Option String) (arguments : Arguments) :
    Except UsageError Arguments :=
  match value with
  | none => .error .invalidValue
  | some text =>
    if name ∈ arguments.given then
      .error .argumentConflict
    else do
      let options ← arguments.options.set name text
      return { options, given := name :: arguments.given, pending := none }

/-- Use the value of the option that is not settled yet. -/
def settle (arguments : Arguments) : Except UsageError Arguments :=
  match arguments.pending with
  | none => .ok arguments
  | some (name, value) => accept name value arguments

/-- The name and, behind the first equals sign, the value of a long option. -/
def splitLong (text : List Char) : String × Option String :=
  let (name, rest) := text.span (· != '=')
  (String.ofList name, rest.tail?.map String.ofList)

/-- Takes an argument that starts with two dashes. -/
def readLong (text : List Char) (arguments : Arguments) : Except UsageError Arguments :=
  let (name, value) := splitLong text
  match OptionName.ofText? name, value with
  | some name, some text => do (← arguments.settle).accept name (some text)
  | some name, none => do return { (← arguments.settle) with pending := some (name, none) }
  | none, value =>
    if name = "help" ∨ name = "version" then
      match value with
      | some _ => .error .tooManyValues
      | none => do
        let _ ← arguments.settle
        .error (if name = "help" then .helpRequested else .versionRequested)
    else
      .error .unknownArgument

/-- Takes an argument that starts with one dash. -/
def readShort (flags : List Char) (arguments : Arguments) : Except UsageError Arguments :=
  match flags with
  | 'h' :: _ => do
    let _ ← arguments.settle
    .error .helpRequested
  | 'V' :: _ => do
    let _ ← arguments.settle
    .error .versionRequested
  | _ => .error .unknownArgument

/-- Takes an argument without dashes, which must be the value of the option before it. -/
def readValue (text : String) (arguments : Arguments) : Except UsageError Arguments :=
  match arguments.pending with
  | some (name, none) => .ok { arguments with pending := some (name, some text) }
  | _ => .error .unknownArgument

/-- Takes all arguments.  Two dashes alone only say that no option follows. -/
def read : List String → Arguments → Except UsageError Arguments
  | [], arguments => arguments.settle
  | argument :: rest, arguments =>
    match argument.toList with
    | ['-', '-'] => if rest.isEmpty then arguments.settle else .error .unknownArgument
    | '-' :: '-' :: text => do read rest (← arguments.readLong text)
    | '-' :: c :: text => do read rest (← arguments.readShort (c :: text))
    | _ => do read rest (← arguments.readValue argument)

end Arguments

namespace Options

/-- The options in a list of arguments; the first problem from the left counts. -/
def parse (arguments : List String) : Except UsageError Options := do
  return (← Arguments.start.read arguments).options

/-- The lines of the master screen. -/
def masterScreen (options : Options) (tags : TagBoard) : List String :=
  ["Layer: %l", options.message, tags.caption]

end Options

end SplitPanel.Host

import SplitPanel.Host.Device
import SplitPanel.Host.Options

/-!
# Command line

Reads the options and looks for the keyboard among the devices the platform reports.
-/

namespace SplitPanel.Host

namespace UsageError

def message : UsageError → String
  | .valueValidation => "error: invalid value for an option"
  | .invalidValue => "error: a value is required for an option"
  | .unknownArgument => "error: unexpected argument"
  | .argumentConflict => "error: an option cannot be used multiple times"
  | .tooManyValues => "error: unexpected value for an option"
  | .helpRequested => "Usage: splitpanel [OPTIONS]"
  | .versionRequested => "splitpanel 0.1.0"

/-- Whether the user got what was asked for. -/
def isAnswer (cause : UsageError) : Bool :=
  cause = .helpRequested || cause = .versionRequested

end UsageError

namespace DeviceQuery

/-- The keyboard that the options name. -/
def ofOptions (options : Options) : DeviceQuery where
  vid := options.vid
  pid := options.pid
  interface := options.interface

end DeviceQuery

/-- What the program says and its exit code, for the arguments and the devices there are. -/
def respond (arguments : List String) (devices : List Device) : String × UInt32 :=
  match Options.parse arguments with
  | .error cause => (cause.message, if cause.isAnswer then 0 else 2)
  | .ok options =>
    match (DeviceQuery.ofOptions options).find devices with
    | .ok _ => ("Keyboard found", 0)
    | .error cause => (cause.message, 1)

end SplitPanel.Host

/-- No platform access is linked into this program, so it sees no devices. -/
def main (arguments : List String) : IO UInt32 := do
  let (text, code) := SplitPanel.Host.respond arguments []
  IO.println text
  return code

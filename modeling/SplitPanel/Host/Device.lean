import SplitPanel.Host.Fault

/-!
# Finding the keyboard

A keyboard shows several interfaces; the one for reports is told apart by its number or, without
one, by its usage.
-/

namespace SplitPanel.Host

/-- The vendor usage page of the report interface. -/
def usagePage : UInt16 := 0xFF60

/-- The vendor usage of the report interface. -/
def usage : UInt16 := 0x61

/-- An interface that is connected to the computer. -/
structure Device where
  vid : UInt16
  pid : UInt16
  interface : Int32
  usagePage : UInt16
  usage : UInt16
deriving DecidableEq, Repr

/-- Which interface to look for. -/
structure DeviceQuery where
  vid : UInt16
  pid : UInt16
  interface : Option Int32
deriving DecidableEq, Repr

namespace DeviceQuery

/-- Whether a device is the one looked for. -/
def accepts (query : DeviceQuery) (device : Device) : Bool :=
  device.vid == query.vid && device.pid == query.pid &&
    match query.interface with
    | some interface => device.interface == interface
    | none => device.usagePage == Host.usagePage && device.usage == Host.usage

/-- The first device that is accepted. -/
def find (query : DeviceQuery) (devices : List Device) : Except HostFault Device :=
  match devices.find? query.accepts with
  | some device => .ok device
  | none => .error (.deviceNotFound query.vid query.pid)

end DeviceQuery

end SplitPanel.Host

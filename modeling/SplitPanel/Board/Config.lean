import SplitPanel.Board.Refusal
import SplitPanel.Screen.Geometry
import SplitPanel.Toml.Value

/-!
# Board configuration

A keyboard is described by a document with four sections.  Every entry has a type and perhaps a
range; a description with a faulty one is refused with all its faults.
-/

namespace SplitPanel.Board

open Toml (Value)

/-- What a half is built for. -/
structure Config where
  geometry : Screen.Geometry
  panelAddress : UInt8
  baudRate : UInt32
  vendorId : UInt16
  productId : UInt16
  manufacturer : String
  product : String
  /-- The names of the layers, by number. -/
  layerNames : List String
deriving DecidableEq

/-- The widest grid a panel of 128 pixels shows, with characters 6 pixels wide. -/
def panelCols : Int := 128 / 6

/-- The highest grid a panel of 32 pixels shows, with characters 8 pixels high. -/
def panelRows : Int := 32 / 8

/-- The number of layers a keymap can have. -/
def maxLayerNames : Nat := 32

/-- The value of an entry. -/
def valueAt? (document : Value) (part : Section) (key : String) : Option Value :=
  (document.get? part.name).bind fun entries => entries.get? key

/-- A whole number in a range. -/
def integerIn (document : Value) (part : Section) (key : String) (low high : Int) :
    Except Problem Int :=
  match (valueAt? document part key).bind Value.integer? with
  | none => .error (.missing part key)
  | some number =>
    if low ≤ number ∧ number ≤ high then .ok number
    else .error (.outOfRange part key low high)

/-- A text. -/
def textOf (document : Value) (part : Section) (key : String) : Except Problem String :=
  match (valueAt? document part key).bind Value.text? with
  | none => .error (.missing part key)
  | some content => .ok content

/-- The texts in the array of layer names.  Other values in it are left out. -/
def writtenNames (document : Value) : List String :=
  match (valueAt? document .layers "names").bind Value.array? with
  | none => []
  | some items => items.filterMap Value.text?

/-- At least one layer name, and no more than there can be layers. -/
def layerNamesOf (document : Value) : Except Problem (List String) :=
  let names := writtenNames document
  if names.isEmpty then .error .noLayers
  else if maxLayerNames < names.length then .error .tooManyLayers
  else .ok names

/-- The problem of an entry, if it has one. -/
def problemOf {α : Type} : Except Problem α → List Problem
  | .ok _ => []
  | .error problem => [problem]

namespace Config

/-- Reads the entries of a description that has all its sections. -/
def ofEntries (document : Value) : Except Refusal Config :=
  let cols := integerIn document .display "cols" 1 panelCols
  let rows := integerIn document .display "rows" 1 panelRows
  let address := integerIn document .display "i2c_address" 0x08 0x77
  let baudRate := integerIn document .split "baud_rate" 9600 1000000
  let vendorId := integerIn document .usb "vid" 0 0xFFFF
  let productId := integerIn document .usb "pid" 0 0xFFFF
  let manufacturer := textOf document .usb "manufacturer"
  let product := textOf document .usb "product"
  let names := layerNamesOf document
  match cols, rows, address, baudRate, vendorId, productId, manufacturer, product, names with
  | .ok cols, .ok rows, .ok address, .ok baudRate, .ok vendorId, .ok productId,
      .ok manufacturer, .ok product, .ok layerNames =>
    .ok {
      geometry := { cols := UInt8.ofNat cols.toNat, rows := UInt8.ofNat rows.toNat }
      panelAddress := UInt8.ofNat address.toNat
      baudRate := UInt32.ofNat baudRate.toNat
      vendorId := UInt16.ofNat vendorId.toNat
      productId := UInt16.ofNat productId.toNat
      manufacturer
      product
      layerNames }
  | _, _, _, _, _, _, _, _, _ =>
    .error (.invalid (problemOf cols ++ problemOf rows ++ problemOf address ++
      problemOf baudRate ++ problemOf vendorId ++ problemOf productId ++
      problemOf manufacturer ++ problemOf product ++ problemOf names))

/-- The configuration a document describes. -/
def ofDocument (document : Value) : Except Refusal Config :=
  match Section.all.filter fun part => (document.get? part.name).isNone with
  | [] => ofEntries document
  | missing => .error (.missingSections missing)

/-- The configuration of a board whose description may be absent. -/
def ofDescription (description : Option Value) : Except Refusal Config :=
  match description with
  | none => .error .noDescription
  | some document => ofDocument document

end Config

end SplitPanel.Board

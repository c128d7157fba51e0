import SplitPanel.Half.Basic

/-!
# Shipped halves

The keyboard as it is delivered: two halves of five rows and six columns, each with a panel of 21
by 4 characters.  While Lower is held the top row drives the tags; while Raise is held the second
and third rows type digits; Adjust, which both together turn on, is empty.
-/

namespace SplitPanel.Half.Shipped

open Keys (Action Key Layer TagKey TriLayer)

def config : Board.Config where
  geometry := { cols := 21, rows := 4 }
  panelAddress := 0x3C
  baudRate := 115200
  vendorId := 0x04D8
  productId := 0xEB2D
  manufacturer := "oledctrl"
  product := "Lily58 OLED"
  layerNames := ["Default", "Lower", "Raise", "Adjust"]

def rows : Nat := 5

def cols : Nat := 6

def lower : Nat := 1

def raise : Nat := 2

def adjust : Nat := 3

def triLayer : TriLayer := { lower, raise, adjust }

/-- A key that means nothing to the tags. -/
def plain : Action := .key .other

def digit (value : UInt8) : Action := .key (.digit value)

def tag (key : TagKey) : Action := .key (.tag key)

/-- A row on which every position does the same. -/
def uniform (action : Action) : Vector Action cols :=
  Vector.replicate cols action

def base : Layer rows cols := #v[
  #v[plain, digit 1, digit 2, digit 3, digit 4, digit 5],
  uniform plain,
  uniform plain,
  uniform plain,
  #v[.none, plain, plain, .momentary lower, plain, .momentary raise]]

def tagLayer : Layer rows cols := #v[
  #v[tag (.select .master), tag (.increment .master), tag (.decrement .master),
    tag (.select .slave), tag (.increment .slave), tag (.decrement .slave)],
  uniform .transparent,
  uniform .transparent,
  uniform .transparent,
  uniform .transparent]

def digitLayer : Layer rows cols := #v[
  uniform .transparent,
  #v[plain, digit 1, digit 2, digit 3, digit 4, digit 5],
  #v[digit 6, digit 7, digit 8, digit 9, digit 0, plain],
  uniform .transparent,
  uniform .transparent]

def emptyLayer : Layer rows cols := #v[
  uniform .none,
  uniform .none,
  uniform .none,
  uniform .none,
  uniform .transparent]

/-- The layers, by number. -/
def layers : List (Layer rows cols) :=
  [base, tagLayer, digitLayer, emptyLayer]

end SplitPanel.Half.Shipped

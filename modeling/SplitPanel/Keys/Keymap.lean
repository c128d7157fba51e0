import SplitPanel.Keys.Position
import SplitPanel.Keys.Selector
import SplitPanel.Screen.LayerName

/-!
# Layered keymap

Positions resolve to keys through a stack of layers.  Momentary keys turn their layer on while
they are held; with a tri-layer, holding two of them turns a third layer on.
-/

namespace SplitPanel.Keys

open Screen (LayerMask)

/-- The layers that a mask has bits for. -/
abbrev layerLimit : Nat := 32

/-- What a position does on one layer. -/
inductive Action where
  | none
  /-- Falls through to the next active layer below. -/
  | transparent
  | key (key : Key)
  /-- Turns a layer on while held. -/
  | momentary (layer : Nat)
deriving DecidableEq, Repr

/-- Why layers are not a keymap. -/
inductive KeymapFault where
  | noLayers
  | tooManyLayers (count : Nat)
  | unknownLayer (layer : Nat)
deriving DecidableEq, Repr

/-- Three layers of which the third is on while the first two are. -/
structure TriLayer where
  lower : Nat
  raise : Nat
  adjust : Nat
deriving DecidableEq, Repr

/-- What every position does on one layer. -/
abbrev Layer (rows cols : Nat) : Type := Grid rows cols Action

/-- A stack of layers, the layers turned on, and for every held position the layer its press
was resolved on. -/
structure Keymap (rows cols : Nat) where
  layers : List (Layer rows cols)
  triLayer : Option TriLayer
  /-- The layers turned on by held momentary keys. -/
  momentary : LayerMask
  state : LayerMask
  held : Grid rows cols (Option Nat)

namespace Keymap

variable {rows cols : Nat}

/-- The layers a tri-layer and the momentary keys name, in the order they are checked. -/
def namedLayers (layers : List (Layer rows cols)) (triLayer : Option TriLayer) : List Nat :=
  (match triLayer with
    | some tri => [tri.lower, tri.raise, tri.adjust]
    | none => []) ++
  layers.flatMap fun layer =>
    (layer.toList.flatMap Vector.toList).filterMap fun
      | .momentary target => some target
      | _ => none

/-- A keymap of which every key names an existing layer, with nothing held. -/
def make (layers : List (Layer rows cols)) (triLayer : Option TriLayer) :
    Except KeymapFault (Keymap rows cols) :=
  if layers.isEmpty then
    .error .noLayers
  else if layerLimit < layers.length then
    .error (.tooManyLayers layers.length)
  else
    match (namedLayers layers triLayer).find? (layers.length ≤ ·) with
    | some missing => .error (.unknownLayer missing)
    | none => .ok {
        layers, triLayer, momentary := 0, state := 0, held := Grid.replicate rows cols none }

/-- What a position does on a layer; nothing on a layer that does not exist. -/
def action (keymap : Keymap rows cols) (layer : Nat) (position : Position rows cols) : Action :=
  match keymap.layers[layer]? with
  | some actions => Grid.entry actions position
  | none => .none

/-- The highest active layer on which a position does not fall through; else the base layer. -/
def resolve (keymap : Keymap rows cols) (position : Position rows cols) : Nat :=
  ((List.range keymap.layers.length).reverse.find? fun layer =>
    layer ≠ 0 ∧ keymap.state.getLsbD layer ∧ keymap.action layer position ≠ .transparent).getD 0

/-- One layer turned on or off. -/
def withLayer (layer : Nat) (on : Bool) (mask : LayerMask) : LayerMask :=
  if on then mask ||| BitVec.twoPow 32 layer else mask &&& ~~~ BitVec.twoPow 32 layer

/-- The layers that are on while the given momentary ones are. -/
def layersOn (triLayer : Option TriLayer) (momentary : LayerMask) : LayerMask :=
  match triLayer with
  | none => momentary
  | some tri =>
    withLayer tri.adjust (momentary.getLsbD tri.lower && momentary.getLsbD tri.raise) momentary

/-- Turn a momentary layer on or off. -/
def setMomentary (layer : Nat) (on : Bool) (keymap : Keymap rows cols) : Keymap rows cols :=
  let momentary := withLayer layer on keymap.momentary
  { keymap with momentary, state := layersOn keymap.triLayer momentary }

/-- Do what a position does on a layer, with the key it gives. -/
def perform (layer : Nat) (position : Position rows cols) (pressed : Bool)
    (keymap : Keymap rows cols) : Keymap rows cols × Option Key :=
  match keymap.action layer position with
  | .key key => (keymap, some key)
  | .momentary target => (keymap.setMomentary target pressed, none)
  | .none => (keymap, none)
  | .transparent => (keymap, none)

/-- A press resolves on the active layers and is remembered. -/
def press (position : Position rows cols) (keymap : Keymap rows cols) :
    Keymap rows cols × Option Key :=
  let layer := keymap.resolve position
  perform layer position true { keymap with held := Grid.put position (some layer) keymap.held }

/-- A release resolves on the layer its press did, even if the layers changed in between. -/
def release (position : Position rows cols) (keymap : Keymap rows cols) :
    Keymap rows cols × Option Key :=
  match Grid.entry keymap.held position with
  | none => (keymap, none)
  | some layer =>
    perform layer position false { keymap with held := Grid.put position none keymap.held }

/-- Takes a press or a release, with the key for the key handler if there is one.  A position
outside the matrix does nothing. -/
def process (row col : Nat) (pressed : Bool) (keymap : Keymap rows cols) :
    Keymap rows cols × Option Key :=
  match Position.make? rows cols row col with
  | none => (keymap, none)
  | some position => if pressed then keymap.press position else keymap.release position

end Keymap

end SplitPanel.Keys

import SplitPanel.Text.Bytes

/-!
# Layer names

The name of the active layer is what a screen shows for its one variable.  The active layer is
the highest one turned on, the way layered keymaps resolve overlapping layers.
-/

namespace SplitPanel.Screen

/-- The layers turned on, one bit each. -/
abbrev LayerMask : Type := BitVec 32

namespace LayerMask

/-- The highest layer turned on; layer 0 when none is. -/
def highest (mask : LayerMask) : Nat :=
  ((List.range 32).reverse.find? fun layer => mask.getLsbD layer).getD 0

end LayerMask

/-- What a source of layer names wrote when it was asked: the pieces, in order, and whether it
came to the end.  A source that failed still shows what it wrote. -/
structure NameSource where
  pieces : List (List UInt8)
  completed : Bool
deriving DecidableEq, Repr

namespace NameSource

/-- Everything the source wrote. -/
def written (source : NameSource) : List UInt8 :=
  source.pieces.flatten

/-- A source that writes one text. -/
def ofText (text : String) : NameSource :=
  { pieces := [Text.utf8 text], completed := true }

end NameSource

/-- The configured layer names, by layer number, and the layers turned on. -/
structure NamedLayers where
  names : List String
  state : LayerMask
deriving DecidableEq

namespace NamedLayers

def active (table : NamedLayers) : Nat :=
  table.state.highest

/-- The configured name of the active layer. -/
def nameOfActive? (table : NamedLayers) : Option String :=
  table.names[table.active]?

/-- What is shown for the active layer; a layer without a name shows the state. -/
def text (table : NamedLayers) : String :=
  table.nameOfActive?.getD ("Undef-" ++ toString table.state.toNat)

def source (table : NamedLayers) : NameSource :=
  .ofText table.text

end NamedLayers

end SplitPanel.Screen

import SplitPanel.Toml.Value

/-!
# Tables under construction

A document defines its tables piece by piece: by headers, by headers of tables inside them, and
by dotted keys.  How a table came to be decides what may still be added to it; nothing can be
defined twice.
-/

namespace SplitPanel.Toml

/-- A dotted key: the tables it leads through and the name in the last of them. -/
structure KeyPath where
  parents : List String
  name : String
deriving DecidableEq, Repr

namespace KeyPath

/-- The path of keys in a row. -/
def ofKeys? (keys : List String) : Option KeyPath :=
  keys.getLast?.map fun name => { parents := keys.dropLast, name }

def keys (path : KeyPath) : List String :=
  path.parents ++ [path.name]

end KeyPath

/-- How a table came to be. -/
inductive Origin where
  /-- It has a header of its own. -/
  | header
  /-- A header of a table inside it named it. -/
  | implied
  /-- A dotted key named it. -/
  | dotted
deriving DecidableEq, Repr

/-- What a key stands for while the document is read. -/
inductive Node where
  /-- A value, to which nothing can be added. -/
  | leaf (value : Value)
  | table (origin : Origin) (entries : List (String × Node))
  /-- The tables of an array, of which the last can grow. -/
  | elements (tables : List (List (String × Node)))

/-- A table under construction. -/
abbrev Entries : Type := List (String × Node)

namespace Entries

/-- The entries with a key standing for another node. -/
def put (key : String) (node : Node) : Entries → Entries
  | [] => [(key, node)]
  | (first, old) :: rest =>
    if first = key then (key, node) :: rest else (first, old) :: put key node rest

/-- Changes the last of the tables of an array. -/
def changeLast (change : Entries → Option Entries) : List Entries → Option (List Entries)
  | [] => none
  | [last] => (change last).map ([·])
  | first :: rest => (changeLast change rest).map (first :: ·)

/-- Changes the table a header path leads to.  Tables that do not exist yet are implied, and an
array of tables leads to its last one. -/
def changeAt (change : Entries → Option Entries) : List String → Entries → Option Entries
  | [], entries => change entries
  | key :: rest, entries =>
    match entries.lookup key with
    | none => (changeAt change rest []).map fun inner =>
        put key (.table .implied inner) entries
    | some (.leaf _) => none
    | some (.table origin inner) => (changeAt change rest inner).map fun inner =>
        put key (.table origin inner) entries
    | some (.elements tables) => (changeLast (changeAt change rest) tables).map fun tables =>
        put key (.elements tables) entries

/-- The entries with a key standing for another node, behind all others. -/
def putLast (key : String) (node : Node) (entries : Entries) : Entries :=
  entries.filter (·.1 ≠ key) ++ [(key, node)]

/-- Gives a table its header: it must be new, or only implied so far.  Its place among the
entries is that of its header. -/
def defineTable (path : KeyPath) : Entries → Option Entries :=
  changeAt (fun entries =>
    match entries.lookup path.name with
    | none => some (putLast path.name (.table .header []) entries)
    | some (.table .implied inner) => some (putLast path.name (.table .header inner) entries)
    | some _ => none) path.parents

/-- Adds an empty table to an array of tables, which may be new. -/
def defineElement (path : KeyPath) : Entries → Option Entries :=
  changeAt (fun entries =>
    match entries.lookup path.name with
    | none => some (put path.name (.elements [[]]) entries)
    | some (.elements tables) => some (put path.name (.elements (tables ++ [[]])) entries)
    | some _ => none) path.parents

/-- Assigns a value to a key that does not exist yet. -/
def assignName (name : String) (value : Value) (entries : Entries) : Option Entries :=
  match entries.lookup name with
  | none => some (put name (.leaf value) entries)
  | some _ => none

/-- Assigns a value through dotted keys.  They lead through tables without a header, and the
last of these must have come from a dotted key itself. -/
def assignUnder (name : String) (value : Value) : List String → Entries → Option Entries
  | [], entries => assignName name value entries
  | key :: rest, entries =>
    match entries.lookup key with
    | none => (assignUnder name value rest []).map fun inner =>
        put key (.table .dotted inner) entries
    | some (.leaf _) => none
    | some (.table origin inner) =>
      if origin = .header ∨ (rest = [] ∧ origin ≠ .dotted) then
        none
      else
        (assignUnder name value rest inner).map fun inner => put key (.table origin inner) entries
    | some (.elements tables) =>
      if rest = [] then
        none
      else
        (changeLast (assignUnder name value rest) tables).map fun tables =>
          put key (.elements tables) entries

def assign (path : KeyPath) (value : Value) : Entries → Option Entries :=
  assignUnder path.name value path.parents

end Entries

mutual

/-- The finished value of a node. -/
def Node.toValue : Node → Value
  | .leaf value => value
  | .table _ entries => .table (Entries.toValues entries)
  | .elements tables => .array (Entries.toTables tables)

/-- The finished entries of a table. -/
def Entries.toValues : List (String × Node) → List (String × Value)
  | [] => []
  | (key, node) :: rest => (key, node.toValue) :: Entries.toValues rest

/-- The finished tables of an array. -/
def Entries.toTables : List (List (String × Node)) → List Value
  | [] => []
  | entries :: rest => .table (Entries.toValues entries) :: Entries.toTables rest

end

end SplitPanel.Toml

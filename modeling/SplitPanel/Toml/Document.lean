import SplitPanel.Toml.DateTable
import SplitPanel.Toml.Text
import SplitPanel.Toml.Tree

/-!
# TOML documents

A document is read line by line into statements: headers of tables, headers of tables in arrays,
and assignments.  The statements are then carried out one after the other, and last the tables that
stand for dates become dates.  A text that is no document, for whatever reason, has no value.
-/

namespace SplitPanel.Toml

/-! ## Keys -/

def isBareKeyChar (c : Char) : Bool :=
  c.isAlphanum || c = '_' || c = '-'

/-- One key, bare or quoted. -/
def simpleKey : Reader String := fun text =>
  let word := text.takeWhile isBareKeyChar
  if word.isEmpty then lineText text
  else some (String.ofList word, text.dropWhile isBareKeyChar)

/-- A key behind a dot, with blanks around it. -/
def dottedPart : Reader String := fun text => do
  let ((), rest) ← expect '.' text
  let (key, rest) ← simpleKey (skipBlanks rest)
  return (key, skipBlanks rest)

/-- How deep values may lie in one another, and how many keys a dotted key may have. -/
def nestingLimit : Nat := 79

/-- A key, perhaps dotted, with blanks around it. -/
def keyPath : Reader KeyPath := fun text => do
  let (first, rest) ← simpleKey (skipBlanks text)
  let (more, rest) := many dottedPart (skipBlanks rest)
  let path ← KeyPath.ofKeys? (first :: more)
  if nestingLimit ≤ more.length then none else some (path, rest)

/-! ## Values -/

/-- The items of an array and its closing bracket.  A comma may stand behind the last item. -/
def arrayItems (item : Reader Value) (text : List Char) : Option (List Value × List Char) :=
  match skipGaps text with
  | ']' :: rest => some ([], rest)
  | body =>
    match item body with
    | none => none
    | some (value, rest) =>
      match skipGaps rest with
      | ']' :: rest => some ([value], rest)
      | ',' :: rest =>
        if rest.length < text.length then
          (arrayItems item rest).map fun (values, rest) => (value :: values, rest)
        else
          none
      | _ => none
termination_by text.length

/-- An assignment: a key, an equals sign and a value. -/
def assignment (item : Reader Value) : Reader (KeyPath × Value) := fun text => do
  let (path, rest) ← keyPath text
  let ((), rest) ← expect '=' rest
  let (value, rest) ← item (skipBlanks rest)
  return ((path, value), rest)

/-- One or more assignments with commas between them, and a closing brace. -/
def inlineAssignments (item : Reader Value) (text : List Char) :
    Option (List (KeyPath × Value) × List Char) :=
  match assignment item text with
  | none => none
  | some (first, rest) =>
    match skipBlanks rest with
    | '\x7d' :: rest => some ([first], rest)
    | ',' :: rest =>
      if rest.length < text.length then
        (inlineAssignments item rest).map fun (more, rest) => (first :: more, rest)
      else
        none
    | _ => none
termination_by text.length

/-- The table that assignments make. -/
def tableOf (assignments : List (KeyPath × Value)) : Option Entries :=
  assignments.foldlM (fun entries (path, value) => Entries.assign path value entries) []

/-- A table in braces, from behind its opening one. -/
def inlineTable (item : Reader Value) : Reader Value := fun text =>
  match skipBlanks text with
  | '\x7d' :: rest => some (.table [], rest)
  | body => do
    let (assignments, rest) ← inlineAssignments item body
    return (.table (Entries.toValues (← tableOf assignments)), rest)

/-- A value in which others lie at most `depth` deep. -/
def valueWithin : Nat → Reader Value
  | _, '\x22' :: rest => (quotedText ('\x22' :: rest)).map fun (text, rest) => (.text text, rest)
  | _, '\x27' :: rest => (quotedText ('\x27' :: rest)).map fun (text, rest) => (.text text, rest)
  | depth + 1, '[' :: rest =>
    (arrayItems (valueWithin depth) rest).map fun (values, rest) => (.array values, rest)
  | depth + 1, '\x7b' :: rest => inlineTable (valueWithin depth) rest
  | _, text => scalar text

def value : Reader Value :=
  valueWithin nestingLimit

/-! ## Statements -/

/-- What one line says. -/
inductive Statement where
  | table (path : KeyPath)
  | element (path : KeyPath)
  | assign (path : KeyPath) (value : Value)

/-- A line that says something. -/
def statement : Reader Statement
  | '[' :: '[' :: rest => do
    let (path, rest) ← keyPath rest
    let ((), rest) ← expect ']' rest
    let ((), rest) ← expect ']' rest
    return (.element path, rest)
  | '[' :: rest => do
    let (path, rest) ← keyPath rest
    let ((), rest) ← expect ']' rest
    return (.table path, rest)
  | text => do
    let ((path, value), rest) ← assignment value text
    return (.assign path value, rest)

/-- One line, which may say nothing. -/
def line : Reader (Option Statement) := fun text =>
  let text := skipBlanks text
  match restOfLine text with
  | some ((), rest) => some (none, rest)
  | none => do
    let (said, rest) ← statement text
    let ((), rest) ← restOfLine rest
    return (some said, rest)

/-- All that a text says. -/
def statements? (text : List Char) : Option (List Statement) :=
  match many line text with
  | (lines, []) => some (lines.filterMap id)
  | _ => none

/-! ## Documents -/

/-- A document under construction: its entries, and the path of the last header. -/
structure Draft where
  entries : Entries
  current : List String

namespace Draft

/-- Carries out one statement. -/
def carryOut (draft : Draft) : Statement → Option Draft
  | .table path =>
    (draft.entries.defineTable path).map fun entries => { entries, current := path.keys }
  | .element path =>
    (draft.entries.defineElement path).map fun entries => { entries, current := path.keys }
  | .assign path value =>
    (draft.entries.changeAt (Entries.assign path value) draft.current).map fun entries =>
      { draft with entries }

end Draft

/-- What a text describes: a table, unless it stands for a date.  A byte order mark may stand in
front. -/
def read? (text : String) : Option Value := do
  let statements ← statements? (match text.toList with
    | '\ufeff' :: rest => rest
    | rest => rest)
  let draft ← statements.foldlM Draft.carryOut { entries := [], current := [] }
  (Value.table (Entries.toValues draft.entries)).withDates

end SplitPanel.Toml

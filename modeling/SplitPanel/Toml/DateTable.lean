import SplitPanel.Toml.Scalar

/-!
# Tables that stand for dates

A table whose first key is `dateKey` stands for the date in the text under that key; whatever
else the table holds does not count.  Without such a text the document is refused.  The key means
nothing behind another one.
-/

namespace SplitPanel.Toml

/-- The key that makes a table a date. -/
def dateKey : String := "$__toml_private_datetime"

/-- The date that the value under `dateKey` stands for. -/
def dateOf? : Value → Option Value
  | .text content => if isDateTime content.toList then some (.dateTime content) else none
  | _ => none

mutual

/-- A value with the dates that tables in it stand for. -/
def Value.withDates : Value → Option Value
  | .array items => (itemsWithDates items).map .array
  | .table [] => some (.table [])
  | .table ((key, first) :: rest) =>
    if key = dateKey then
      dateOf? first
    else do
      let first ← first.withDates
      let rest ← entriesWithDates rest
      return .table ((key, first) :: rest)
  | value => some value

/-- The items of an array with their dates. -/
def itemsWithDates : List Value → Option (List Value)
  | [] => some []
  | item :: rest => do
    let item ← item.withDates
    let rest ← itemsWithDates rest
    return item :: rest

/-- The entries of a table with their dates. -/
def entriesWithDates : List (String × Value) → Option (List (String × Value))
  | [] => some []
  | (key, value) :: rest => do
    let value ← value.withDates
    let rest ← entriesWithDates rest
    return (key, value) :: rest

end

end SplitPanel.Toml

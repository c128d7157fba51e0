/-!
# Document values

What a TOML document holds.  The document itself is a table, unless it stands for a date.
-/

namespace SplitPanel.Toml

inductive Value where
  | text (content : String)
  /-- A whole number of 64 bits with sign. -/
  | integer (number : Int)
  /-- A number with a fraction or an exponent, as written. -/
  | float (written : String)
  | boolean (value : Bool)
  /-- A date, a time, or both, as written. -/
  | dateTime (written : String)
  | array (items : List Value)
  | table (entries : List (String × Value))
deriving Inhabited

namespace Value

/-- The value a table has under a key.  No other value has anything under a key. -/
def get? (key : String) : Value → Option Value
  | .table entries => entries.lookup key
  | _ => none

def integer? : Value → Option Int
  | .integer number => some number
  | _ => none

def text? : Value → Option String
  | .text content => some content
  | _ => none

def array? : Value → Option (List Value)
  | .array items => some items
  | _ => none

end Value

end SplitPanel.Toml

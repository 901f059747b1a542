import OutlineLint.Decimal.Shortest
import OutlineLint.Mismatch

/-!
# TOML values

The fields of a table keep the order in which the document defines them. Of dates and times only
that they are there is kept.
-/

namespace OutlineLint

/-- A number with a fraction or a power of ten, or a special one. -/
inductive Toml.Number
  | finite (value : Decimal)
  | infinite (negative : Bool)
  | nan
  deriving DecidableEq, Repr

inductive Toml
  | string (value : String)
  | integer (value : Int)
  | number (value : Toml.Number)
  | boolean (value : Bool)
  | dateTime
  | array (items : List Toml)
  | table (fields : List (String × Toml))

namespace Toml

/-- The text of a number. -/
def Number.text : Number → String
  | finite value => value.text Decimal.positional
  | infinite false => "inf"
  | infinite true => "-inf"
  | nan => "NaN"

/-- What a value is, for a mismatch. A date or time counts as a table. -/
def found : Toml → Found
  | string s => .string s
  | integer n => .integer n
  | number n => .number n.text
  | boolean b => .boolean b
  | array _ => .sequence
  | dateTime | table _ => .map

/-- How deep values may be nested, and how many parts a key may have, must stay below this. -/
def nestingBound : Nat := 80

end Toml

end OutlineLint

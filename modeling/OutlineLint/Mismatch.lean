import OutlineLint.Text.Quoted

/-!
# Data that does not fit

When data is read into a type, the first part that does not fit is reported: a field that is missing
or not known, a name that is none of the expected ones, or a value of another type, out of range or
of another length.
-/

namespace OutlineLint

/-- What stands where something else was expected. -/
inductive Found
  | integer (value : Int)
  /-- A number with a fraction or a power of ten, by its text. -/
  | number (text : String)
  | boolean (value : Bool)
  | string (value : String)
  | null
  | sequence
  | map
  deriving DecidableEq, Repr

def Found.describe : Found → String
  | .integer value => s!"integer `{value}`"
  | .number text => s!"floating point `{text}`"
  | .boolean value => s!"boolean `{value}`"
  | .string value => "string " ++ Text.quoted value
  | .null => "null"
  | .sequence => "sequence"
  | .map => "map"

/-- The first part of some data that does not fit. -/
inductive Mismatch
  | missingField (name : String)
  | unknownField (name : String) (expected : List String)
  | unknownVariant (name : String) (expected : List String)
  | invalidType (found : Found) (expected : String)
  | invalidValue (found : Found) (expected : String)
  | invalidLength (length : Nat) (expected : String)
  deriving DecidableEq, Repr

namespace Mismatch

/-- A list of names to choose from. -/
def alternatives : List String → String
  | [a] => s!"`{a}`"
  | [a, b] => s!"`{a}` or `{b}`"
  | names => "one of " ++ ", ".intercalate (names.map fun name => s!"`{name}`")

def message : Mismatch → String
  | missingField name => s!"missing field `{name}`"
  | unknownField name expected => s!"unknown field `{name}`, expected {alternatives expected}"
  | unknownVariant name expected => s!"unknown variant `{name}`, expected {alternatives expected}"
  | invalidType found expected => s!"invalid type: {found.describe}, expected {expected}"
  | invalidValue found expected => s!"invalid value: {found.describe}, expected {expected}"
  | invalidLength length expected => s!"invalid length {length}, expected {expected}"

end Mismatch

end OutlineLint

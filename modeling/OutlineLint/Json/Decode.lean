import OutlineLint.Decimal.Shortest
import OutlineLint.Decimal.Stepwise
import OutlineLint.Json.Basic
import OutlineLint.Mismatch

/-!
# Reading JSON values into types

The fields of an object are looked at in the order of their names, and of several fields with one
name the last one counts. The first field that does not fit is reported; only if all fields fit are
the missing ones, in the order in which the type declares them. Fields that the type does not have
are passed over.
-/

namespace OutlineLint.Json

/-! ### Numbers, strings and lists -/

/-- Whether an integer has a place in 64 bits, with a sign or without. -/
def fits64 (n : Int) : Bool := Int64.minValue.toInt ≤ n && n < UInt64.size

/-- The text of a number that is not kept as an integer. -/
def numberText (d : Decimal) : String :=
  Decimal.signedText Decimal.compact d.negative d.roundStepwise?

/-- What a value is, for a mismatch. An integer beyond 64 bits counts as a number with a fraction. -/
def found : Json → Found
  | null => .null
  | bool b => .boolean b
  | integer n =>
    if fits64 n then .integer n else .number (numberText ⟨decide (n < 0), n.natAbs, 0⟩)
  | decimal d => .number (numberText d)
  | string s => .string s
  | array _ => .sequence
  | object _ => .map

/-- Reads a natural number below `bound`; `expected` names the type. -/
def decodeNat (bound : Nat) (expected : String) : Json → Except Mismatch Nat
  | integer n =>
    if !fits64 n then .error (.invalidType (integer n).found expected)
    else if 0 ≤ n ∧ n.toNat < bound then .ok n.toNat
    else .error (.invalidValue (.integer n) expected)
  | value => .error (.invalidType value.found expected)

def decodeString : Json → Except Mismatch String
  | string s => .ok s
  | value => .error (.invalidType value.found "a string")

def decodeList {α : Type} (decode : Json → Except Mismatch α) : Json → Except Mismatch (List α)
  | array items => items.mapM decode
  | value => .error (.invalidType value.found "a sequence")

def decodeOption {α : Type} (decode : Json → Except Mismatch α) :
    Json → Except Mismatch (Option α)
  | null => .ok none
  | value => (decode value).map some

/-! ### Names -/

/-- The value with the given name. -/
def decodeName {α : Type} (all : List α) (name : α → String) (text : String) :
    Except Mismatch α :=
  match all.find? fun a => name a == text with
  | some a => .ok a
  | none => .error (.unknownVariant text (all.map name))

/-- Reads one of several values by its name. An object with the name as its only field and with
`null` in it stands for the name. -/
def decodeEnum {α : Type} (all : List α) (name : α → String) : Json → Except Mismatch α
  | string s => decodeName all name s
  | object [(key, content)] => do
    let a ← decodeName all name key
    match content with
    | null => .ok a
    | content => .error (.invalidType content.found "unit")
  | object _ => .error (.invalidValue .map "map with a single key")
  | value => .error (.invalidType value.found "string or map")

/-! ### Records -/

/-- The fields of an object, by name. -/
abbrev Fields := List (String × Json)

namespace Fields

/-- Puts a field in its place in the order of the names. -/
def insert (name : String) (value : Json) : Fields → Fields
  | [] => [(name, value)]
  | (other, content) :: rest =>
    if name < other then (name, value) :: (other, content) :: rest
    else if name = other then (name, value) :: rest
    else (other, content) :: insert name value rest

/-- The fields in the order of their names, of several with one name the last one. -/
def sorted (fields : Fields) : Fields :=
  fields.foldl (fun done field => insert field.1 field.2 done) []

/-- The value of a required field. -/
def required {α : Type} (fields : Fields) (name : String) (decode : Json → Except Mismatch α) :
    Except Mismatch α :=
  match fields.lookup name with
  | some value => decode value
  | none => .error (.missingField name)

/-- The value of a field that may be missing or `null`. -/
def optional {α : Type} (fields : Fields) (name : String) (decode : Json → Except Mismatch α) :
    Except Mismatch (Option α) :=
  match fields.lookup name with
  | some value => decodeOption decode value
  | none => .ok none

end Fields

/-- A test of the value of a field. -/
abbrev FieldCheck := String × (Json → Except Mismatch Unit)

/-- The test whether a value can be read. -/
def check {α : Type} (name : String) (decode : Json → Except Mismatch α) : FieldCheck :=
  (name, fun value => (decode value).map fun _ => ())

/-- Tests fields in the given order and reports the first that does not fit. -/
def checkFields (checks : List FieldCheck) : Fields → Except Mismatch Unit
  | [] => .ok ()
  | (name, value) :: rest =>
    match checks.lookup name with
    | none => checkFields checks rest
    | some test => do
      test value
      checkFields checks rest

/-- The number of elements of a record, in words. -/
def elements (n : Nat) : String := if n = 1 then s!"{n} element" else s!"{n} elements"

/-- The fields of a record that is written as an object, or as the array of its fields' values in
the order of the checks. `expected` names the record; `surplus` words what an array that is too
long should have been. -/
def recordFields (expected : String) (surplus : String) (checks : List FieldCheck) :
    Json → Except Mismatch Fields
  | object fields => do
    let fields := Fields.sorted fields
    checkFields checks fields
    return fields
  | array items => do
    let fields := (checks.map Prod.fst).zip items
    checkFields checks fields
    if items.length < checks.length then
      .error (.invalidLength items.length s!"{expected} with {elements checks.length}")
    else if checks.length < items.length then .error (.invalidLength items.length surplus)
    else return fields
  | value => .error (.invalidType value.found expected)

end OutlineLint.Json

import OutlineLint.Decimal.Basic

/-!
# JSON values

The fields of an object keep their order. A number without a fraction and a power of ten is an
integer.
-/

namespace OutlineLint

inductive Json
  | null
  | bool (value : Bool)
  | integer (value : Int)
  | decimal (value : Decimal)
  | string (value : String)
  | array (items : List Json)
  | object (fields : List (String × Json))

namespace Json

/-- The array of strings. -/
def strings (items : List String) : Json := array (items.map string)

/-- The value, or `null` if there is none. -/
def ofOption {α : Type} (f : α → Json) : Option α → Json
  | none => null
  | some a => f a

/-- The number of a count or a position. -/
def nat (n : Nat) : Json := integer n

end Json

end OutlineLint

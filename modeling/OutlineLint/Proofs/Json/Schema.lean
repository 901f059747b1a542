import Mathlib.Tactic.Lemma
import OutlineLint.Json.Basic

/-!
# Values that conform to a schema

A schema is itself a value: the boolean `true` or `false`, to which every value or none conforms, or
an object whose fields are keywords. A keyword about the items of an array or the fields of an
object says nothing about values of other types. Of the keywords of JSON Schema only some are known
here, and of the types all but those of numbers; nothing conforms to a schema with others.
-/

namespace OutlineLint.Json

/-- The items of an array. -/
def items : Json → List Json
  | array items => items
  | _ => []

/-- The fields of an object. -/
def fields : Json → List (String × Json)
  | object fields => fields
  | _ => []

/-- The name of the type of a value, if it is not a number. -/
def typeName? : Json → Option String
  | null => some "null"
  | bool _ => some "boolean"
  | integer _ | decimal _ => none
  | string _ => some "string"
  | array _ => some "array"
  | object _ => some "object"

/-- The value is as a keyword with the given content demands, where the content holds no schema. -/
def Satisfies (value : Json) (keyword : String) (content : Json) : Prop :=
  if keyword = "type" then ∃ name, content = string name ∧ value.typeName? = some name
  else if keyword = "enum" then value ∈ content.items
  else if keyword = "required" then ∃ names, content = strings names ∧
    ∀ fields, value = object fields → ∀ name ∈ names, name ∈ fields.map Prod.fst
  else keyword = "$schema" ∨ keyword = "title"

mutual

/-- The value conforms to the schema. -/
def Conforms : (schema value : Json) → Prop
  | bool every, _ => every = true
  | object keywords, value => ConformsToKeywords keywords value
  | _, _ => False

/-- The value is as all of the keywords demand. -/
def ConformsToKeywords : List (String × Json) → Json → Prop
  | [], _ => True
  | (keyword, content) :: rest, value =>
    (if keyword = "items" then ∀ item ∈ value.items, Conforms content item
    else if keyword = "properties" then
      match content with
      | object properties => ConformsToProperties properties value.fields
      | _ => False
    else value.Satisfies keyword content) ∧ ConformsToKeywords rest value

/-- Under the name of a property stand only values that conform to its schema. -/
def ConformsToProperties : List (String × Json) → List (String × Json) → Prop
  | [], _ => True
  | (name, schema) :: rest, fields =>
    (∀ field ∈ fields, field.1 = name → Conforms schema field.2) ∧ ConformsToProperties rest fields

end

/-! ### Keywords -/

variable {value content : Json} {name : String} {names : List String}
  {fields : List (String × Json)}

@[simp] lemma typeName?_string (s : String) : (string s).typeName? = some "string" := rfl

@[simp] lemma typeName?_array (items : List Json) : (array items).typeName? = some "array" := rfl

@[simp] lemma typeName?_strings (items : List String) :
    (strings items).typeName? = some "array" := rfl

@[simp] lemma items_strings : (strings names).items = names.map string := rfl

@[simp] lemma satisfies_type :
    value.Satisfies "type" (string name) ↔ value.typeName? = some name := by
  simp [Satisfies, eq_comm]

@[simp] lemma satisfies_enum : value.Satisfies "enum" content ↔ value ∈ content.items := by
  simp [Satisfies]

lemma satisfies_required (h : ∀ name ∈ names, name ∈ fields.map Prod.fst) :
    (object fields).Satisfies "required" (strings names) := by
  rw [Satisfies, if_neg (by decide), if_neg (by decide), if_pos rfl]
  refine ⟨names, rfl, ?_⟩
  intro found hfound
  obtain rfl := Json.object.inj hfound
  exact h

@[simp] lemma satisfies_title : value.Satisfies "title" content := by simp [Satisfies]

@[simp] lemma satisfies_schema : value.Satisfies "$schema" content := by simp [Satisfies]

end OutlineLint.Json

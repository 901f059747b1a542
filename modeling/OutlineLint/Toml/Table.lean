import OutlineLint.Toml.Basic

/-!
# Defining the tables of a document

While a document is read, it is remembered how each table came about: by its header or as a table on
the way to another one, by a key with points, or as a value. This decides what may still be added to
it. A table is defined by at most one header, a key at most once, and a value is never changed.
-/

namespace OutlineLint.Toml

/-- Part of a document that is being read. -/
inductive Node
  | value (value : Toml)
  /-- A table; whether it was only met on the way, and whether keys with points made it. -/
  | table (onTheWay byPoints : Bool) (fields : List (String × Node))
  /-- The tables of an array of tables, the latest first. -/
  | tables (elements : List (List (String × Node)))

/-- The fields of a table that is being read. -/
abbrev NodeFields := List (String × Node)

/-- Puts another node in the place of a field. -/
def replaceField (name : String) (node : Node) (fields : NodeFields) : NodeFields :=
  fields.map fun field => if field.1 = name then (name, node) else field

/-! ### Keys -/

/-- Defines a key, whose parts lead through tables that keys with points made. `isOpen` tells whether
the table that was reached may get fields. -/
def define (isOpen : Bool) : List String → Toml → NodeFields → Option NodeFields
  | [], _, _ => none
  | [name], value, fields =>
    if isOpen && (fields.lookup name).isNone then some (fields ++ [(name, .value value)]) else none
  | name :: rest, value, fields =>
    match fields.lookup name with
    | none => (define true rest value []).map fun inner => fields ++ [(name, .table true true inner)]
    | some (.table true byPoints inner) =>
      (define byPoints rest value inner).map fun inner =>
        replaceField name (.table true byPoints inner) fields
    | some (.tables (latest :: earlier)) =>
      (define false rest value latest).map fun latest =>
        replaceField name (.tables (latest :: earlier)) fields
    | some _ => none

/-! ### Headers -/

/-- Changes the fields of the table to which the names lead, and makes the tables on the way. -/
def changeBelow {α : Type} (change : NodeFields → Option (α × NodeFields)) :
    List String → NodeFields → Option (α × NodeFields)
  | [], fields => change fields
  | name :: rest, fields =>
    match fields.lookup name with
    | none =>
      (changeBelow change rest []).map fun (a, inner) =>
        (a, fields ++ [(name, .table true false inner)])
    | some (.table onTheWay byPoints inner) =>
      (changeBelow change rest inner).map fun (a, inner) =>
        (a, replaceField name (.table onTheWay byPoints inner) fields)
    | some (.tables (latest :: earlier)) =>
      (changeBelow change rest latest).map fun (a, latest) =>
        (a, replaceField name (.tables (latest :: earlier)) fields)
    | some _ => none

/-- Takes out the table that a header is about to define, with the fields it already has. -/
def takeTable (name : String) (fields : NodeFields) : Option (NodeFields × NodeFields) :=
  match fields.lookup name with
  | none => some ([], fields)
  | some (.table true false inner) => some (inner, fields.filter (·.1 != name))
  | some _ => none

/-- Puts in the table that a header defines. -/
def putTable (name : String) (table : NodeFields) (fields : NodeFields) :
    Option (Unit × NodeFields) :=
  some ((), fields ++ [(name, .table false false table)])

/-- Makes sure that a field may hold an array of tables. -/
def checkTables (name : String) (fields : NodeFields) : Option (NodeFields × NodeFields) :=
  match fields.lookup name with
  | none | some (.tables _) => some ([], fields)
  | some _ => none

/-- Puts a table at the end of an array of tables. -/
def pushTable (name : String) (table : NodeFields) (fields : NodeFields) :
    Option (Unit × NodeFields) :=
  match fields.lookup name with
  | none => some ((), fields ++ [(name, .tables [table])])
  | some (.tables elements) => some ((), replaceField name (.tables (table :: elements)) fields)
  | some _ => none

/-! ### Documents -/

/-- The table of the latest header, which is put into the document when the next one starts. -/
structure Section where
  /-- The name of the table, after the names of the tables around it; `none` at the top. -/
  place : Option (List String × String)
  isElement : Bool
  fields : NodeFields

/-- A document as far as it was read. -/
structure Draft where
  top : NodeFields
  current : Section

namespace Draft

/-- Nothing was read yet. -/
def empty : Draft := ⟨[], ⟨none, false, []⟩⟩

/-- The fields of the document, with the table of the latest header. -/
def close (draft : Draft) : Option NodeFields :=
  match draft.current.place with
  | none => some draft.current.fields
  | some (path, name) =>
    let put := if draft.current.isElement then pushTable name else putTable name
    (changeBelow (put draft.current.fields) path draft.top).map Prod.snd

/-- Starts the table of a header. -/
def startTable (draft : Draft) (path : List String) (name : String) : Option Draft := do
  let top ← draft.close
  let (fields, top) ← changeBelow (takeTable name) path top
  return ⟨top, ⟨some (path, name), false, fields⟩⟩

/-- Starts another table of an array of tables. -/
def startElement (draft : Draft) (path : List String) (name : String) : Option Draft := do
  let top ← draft.close
  let (fields, top) ← changeBelow (checkTables name) path top
  return ⟨top, ⟨some (path, name), true, fields⟩⟩

/-- Defines a key in the current table. -/
def define (draft : Draft) (key : List String) (value : Toml) : Option Draft := do
  let fields ← Toml.define true key value draft.current.fields
  return { draft with current := { draft.current with fields } }

end Draft

/-! ### Finished values -/

mutual

/-- The value of a part of a finished document. -/
def Node.freeze : Node → Toml
  | .value v => v
  | .table _ _ fields => .table (freezeFields fields)
  | .tables elements => .array (freezeElements elements).reverse

/-- The fields of a finished table. -/
def freezeFields : List (String × Node) → List (String × Toml)
  | [] => []
  | (name, node) :: rest => (name, node.freeze) :: freezeFields rest

/-- The tables of a finished array of tables, the latest first. -/
def freezeElements : List (List (String × Node)) → List Toml
  | [] => []
  | fields :: rest => .table (freezeFields fields) :: freezeElements rest

end

end OutlineLint.Toml

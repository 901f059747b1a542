import OutlineLint.Catalog.Sheet
import OutlineLint.Toml.Document

/-!
# Reading catalogs

A catalog is written in TOML. The fields of a table are looked at in the order of the document, and
fields that a catalog does not have are refused. A row may also be the array of its values.
-/

namespace OutlineLint.Catalog

/-! ### Errors -/

/-- Why a text is no sheet. -/
inductive ReadError
  /-- The text is no TOML document, or a row in it has too few values. -/
  | malformed
  | mismatch (mismatch : Mismatch)
  deriving DecidableEq, Repr

/-- What is said of a text that is no sheet, given the text and the reason. The words are those of
the library that reads TOML, with the place in the text that they are about; they are not reproduced
here, so whatever says them is given them. -/
abbrev ReadError.Wording := String → ReadError → String

/-! ### Values -/

def readString : Toml → Except ReadError String
  | .string s => .ok s
  | value => .error (.mismatch (.invalidType value.found "a string"))

def readStrings : Toml → Except ReadError (List String)
  | .array items => items.mapM readString
  | value => .error (.mismatch (.invalidType value.found "a sequence"))

/-- The error for a field that is missing at the end of a table. -/
def require {α : Type} (name : String) : Option α → Except ReadError α
  | some a => .ok a
  | none => .error (.mismatch (.missingField name))

/-! ### Rows -/

/-- The fields of a row as far as they were read. -/
structure RowDraft where
  kind : Option String := none
  fileName : Option String := none
  template : Option String := none
  agent : Option String := none
  required : Option (List String) := none
  optional : Option (List String) := none

/-- The names of the fields of a row. -/
def rowFields : List String := ["kind", "file_name", "template", "agent", "required", "optional"]

/-- Reads a field of a row. -/
def RowDraft.read (draft : RowDraft) : String × Toml → Except ReadError RowDraft
  | ("kind", value) => return { draft with kind := some (← readString value) }
  | ("file_name", value) => return { draft with fileName := some (← readString value) }
  | ("template", value) => return { draft with template := some (← readString value) }
  | ("agent", value) => return { draft with agent := some (← readString value) }
  | ("required", value) => return { draft with required := some (← readStrings value) }
  | ("optional", value) => return { draft with optional := some (← readStrings value) }
  | (name, _) => .error (.mismatch (.unknownField name rowFields))

/-- The row, if no field is missing that a row must have. -/
def RowDraft.finish (draft : RowDraft) : Except ReadError Row :=
  return {
    kind := ← require "kind" draft.kind
    fileName := ← require "file_name" draft.fileName
    template := ← require "template" draft.template
    agent := draft.agent
    required := ← require "required" draft.required
    optional := draft.optional.getD [] }

/-- The name under which a date or time shows when it is taken for a table. -/
def dateTimeField : String := "$__toml_private_datetime"

/-- The least number of values of a row that is written as an array: only the optional headings may
be left out. -/
def leastValues : Nat := 5

/-- Reads a row. An array stands for the values of the fields in their order; what follows the last
field is passed over. -/
def readRow : Toml → Except ReadError Row
  | .table fields => do
    let draft ← fields.foldlM RowDraft.read {}
    draft.finish
  | .dateTime => .error (.mismatch (.unknownField dateTimeField rowFields))
  | .array items => do
    let draft ← (rowFields.zip items).foldlM RowDraft.read {}
    if items.length < leastValues then .error .malformed else draft.finish
  | value => .error (.mismatch (.invalidType value.found "struct RawArtifact"))

def readRows : Toml → Except ReadError (List Row)
  | .array items => items.mapM readRow
  | value => .error (.mismatch (.invalidType value.found "a sequence"))

/-! ### Sheets -/

/-- The fields of a sheet as far as they were read. -/
structure SheetDraft where
  outputRoot : Option String := none
  standardsDoc : Option String := none
  rows : Option (List Row) := none

/-- The names of the fields of a sheet. -/
def sheetFields : List String := ["output_root", "standards_doc", "artifacts"]

/-- Reads a field of a sheet. -/
def SheetDraft.read (draft : SheetDraft) : String × Toml → Except ReadError SheetDraft
  | ("output_root", value) => return { draft with outputRoot := some (← readString value) }
  | ("standards_doc", value) => return { draft with standardsDoc := some (← readString value) }
  | ("artifacts", value) => return { draft with rows := some (← readRows value) }
  | (name, _) => .error (.mismatch (.unknownField name sheetFields))

/-- The sheet, if it has rows. -/
def SheetDraft.finish (draft : SheetDraft) : Except ReadError Sheet :=
  return {
    outputRoot := draft.outputRoot
    standardsDoc := draft.standardsDoc
    rows := ← require "artifacts" draft.rows }

/-- Reads a sheet. -/
def Sheet.parse (text : String) : Except ReadError Sheet :=
  match Toml.parse? text with
  | none => .error .malformed
  | some fields => do
    let draft ← fields.foldlM SheetDraft.read {}
    draft.finish

end OutlineLint.Catalog

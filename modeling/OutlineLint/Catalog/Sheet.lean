import OutlineLint.Catalog.Basic

/-!
# From a sheet to a catalog

A sheet is a catalog as its author wrote it: the values have blanks around them, and nothing is
checked. Checking it goes through all rows and collects every problem; only a sheet without a
problem gives a catalog.

Of the names of kinds and files that occur twice, only those of rows that are otherwise without a
fault are noticed.
-/

namespace OutlineLint.Catalog

/-! ### Sheets -/

/-- What the author of a catalog wrote for one kind of artifact. -/
structure Row where
  kind : String
  fileName : String
  template : String
  agent : Option String
  required : List String
  optional : List String
  deriving DecidableEq, Repr

/-- A catalog as its author wrote it. -/
structure Sheet where
  outputRoot : Option String
  standardsDoc : Option String
  rows : List Row
  deriving DecidableEq, Repr

/-- Where artifacts are, unless the catalog says otherwise. -/
def defaultOutputRoot : String := "agent-output"

/-- Where the standards document is, unless the catalog says otherwise. -/
def defaultStandardsDoc : String := ".github/instructions/markdown.instructions.md"

/-! ### Problems -/

/-- What is wrong with one row. -/
inductive RowFault
  | kind (error : ArtifactKind.Error)
  | fileName
  | template
  | agent
  | schema (error : Schema.Error)
  deriving DecidableEq, Repr

def RowFault.message : RowFault → String
  | .kind error => error.message
  | .fileName => "file_name must be a bare, non-empty file name"
  | .template => "template cannot be empty"
  | .agent => "agent cannot be empty"
  | .schema error => error.message

/-- What is wrong with a sheet. -/
inductive Problem
  | noRows
  /-- A fault of a row, which is named by its kind or by its place. -/
  | inRow (owner : String) (fault : RowFault)
  | repeatedKind (kind : ArtifactKind)
  | repeatedFileName (name : String)
  | outputRoot
  | standardsDoc
  deriving DecidableEq, Repr

def Problem.message : Problem → String
  | .noRows => "catalog must declare at least one artifact"
  | .inRow owner fault => s!"{owner}: {fault.message}"
  | .repeatedKind kind => s!"duplicate artifact kind `{kind}`"
  | .repeatedFileName name => s!"duplicate artifact file_name `{name}`"
  | .outputRoot => "catalog: output_root cannot be empty"
  | .standardsDoc => "catalog: standards_doc cannot be empty"

/-! ### Checking a row -/

/-- Whether a text, without the blanks around it, can be the name of a file. -/
def isBareName (name : String) : Bool := !name.isEmpty && !name.toList.contains '/'

/-- The path that a text spells, without the blanks around it, unless nothing is left. -/
def path? (text : String) : Option Path :=
  let trimmed := Text.trim text
  if trimmed.isEmpty then none else some (.ofString trimmed)

/-- The error, if there is one. -/
def errorOf {ε α : Type} : Except ε α → Option ε
  | .error e => some e
  | .ok _ => none

namespace Row

/-- How the row is named in messages: by its kind, or by its place if it has none. -/
def owner (row : Row) (index : Nat) : String :=
  let kind := Text.trim row.kind
  if kind.isEmpty then s!"artifacts[{index}]" else kind

/-- All faults of a row. -/
def faults (row : Row) : List RowFault :=
  ((errorOf (ArtifactKind.parse row.kind)).map RowFault.kind).toList ++
    (if isBareName (Text.trim row.fileName) then [] else [.fileName]) ++
    (if (path? row.template).isSome then [] else [.template]) ++
    (if row.agent.all fun agent => (path? agent).isSome then [] else [.agent]) ++
    ((errorOf (Schema.build row.required row.optional)).map RowFault.schema).toList

/-- The entry that a row gives, unless it has a fault. -/
def entry? (row : Row) : Option Entry := do
  let kind ← (ArtifactKind.parse row.kind).toOption
  let fileName := Text.trim row.fileName
  guard (isBareName fileName)
  let template ← path? row.template
  let agent ←
    match row.agent with
    | none => some none
    | some agent => (path? agent).map some
  let schema ← (Schema.build row.required row.optional).toOption
  return { kind, fileName, template, agent, schema }

end Row

/-! ### Checking a sheet -/

/-- The problems of entries whose kind or file name an earlier entry has. -/
def repeatedIn (kinds : List ArtifactKind) (names : List String) : List Entry → List Problem
  | [] => []
  | entry :: rest =>
    (if entry.kind ∈ kinds then [.repeatedKind entry.kind] else []) ++
      (if entry.fileName ∈ names then [.repeatedFileName entry.fileName] else []) ++
      repeatedIn (entry.kind :: kinds) (entry.fileName :: names) rest

namespace Sheet

/-- The entries of the rows that have no fault. -/
def entries (sheet : Sheet) : List Entry := sheet.rows.filterMap Row.entry?

/-- The problems of the rows, each row for itself. -/
def rowProblems (sheet : Sheet) : List Problem :=
  sheet.rows.zipIdx.flatMap fun (row, index) => row.faults.map (.inRow (row.owner index))

/-- The output directory, unless it is empty. -/
def outputRoot? (sheet : Sheet) : Option Path :=
  path? (sheet.outputRoot.getD defaultOutputRoot)

/-- The standards document, unless its path is empty. -/
def standardsDoc? (sheet : Sheet) : Option Path :=
  path? (sheet.standardsDoc.getD defaultStandardsDoc)

/-- All problems of a sheet. -/
def problems (sheet : Sheet) : List Problem :=
  (if sheet.rows.isEmpty then [.noRows] else []) ++ sheet.rowProblems ++
    repeatedIn [] [] sheet.entries ++
    (if sheet.outputRoot?.isSome then [] else [.outputRoot]) ++
    (if sheet.standardsDoc?.isSome then [] else [.standardsDoc])

/-- The catalog that a sheet gives, or all its problems. -/
def catalog (sheet : Sheet) : Except (List Problem) Catalog :=
  match sheet.problems, sheet.outputRoot?, sheet.standardsDoc? with
  | [], some outputRoot, some standardsDoc =>
    .ok { outputRoot, standardsDoc, entries := sheet.entries }
  | problems, _, _ => .error problems

end Sheet

end OutlineLint.Catalog

import OutlineLint.Catalog.Builtin
import OutlineLint.Catalog.Listing
import OutlineLint.Catalog.Load
import OutlineLint.CommandLine.Command
import OutlineLint.FileTree.Repository
import OutlineLint.Lint
import OutlineLint.Report.Json
import OutlineLint.Report.Workflow

/-!
# Running commands

A command looks at a file tree and comes to an exit code and a text to print. A command that needs a
catalog and has none fails. The help, and what is wrong with a text that is no catalog, are worded by
libraries; a run takes these words and says them (`Wording`).
-/

namespace OutlineLint.CommandLine

/-- What the libraries of the program say in words of their own. These are not reproduced. -/
structure Wording where
  readError : Catalog.ReadError.Wording
  /-- The help on the program, or on the command of the given name. -/
  help : Option String → HelpForm → String

/-- How a run of the program ends. -/
structure Exit where
  code : Nat
  /-- What is printed. -/
  output : String
  /-- The error that is reported instead. -/
  failure : Option Catalog.Error
  deriving DecidableEq, Repr

/-- The exit code of a run that could not do what it was asked for. -/
def usageCode : Nat := 2

/-- The run printed a text and a line end. -/
def Exit.printed (code : Nat) (text : String) : Exit := ⟨code, text ++ "\n", none⟩

/-- The run failed. -/
def Exit.failed (error : Catalog.Error) : Exit := ⟨usageCode, "", some error⟩

/-- The words on the command line were not understood. What is wrong with them is worded by the library
that reads them and goes to the errors; it is not reproduced. -/
def Exit.usage : Exit := ⟨usageCode, "", none⟩

/-- The error message of a run. -/
def Exit.message (wording : Wording) (exit : Exit) : String :=
  match exit.failure with
  | some error => "artifact-lint: " ++ error.message wording.readError
  | none => ""

/-- The name and version of the program. -/
def versionLine : String := "artifact-lint 0.1.0"

/-! ### Commands -/

/-- The built-in catalog. -/
def builtinCatalog : Except Catalog.Error Catalog := Catalog.builtin.mapError .invalid

/-- The catalog at a path, by default the built-in one. -/
def catalogAt (repo : Repository) : Option Path → Except Catalog.Error Catalog
  | some path => Catalog.load repo path
  | none => builtinCatalog

/-- The report in a form. -/
def showReport (report : Report) : ReportFormat → String
  | .text => report.plain
  | .json => report.json
  | .github => report.workflow

/-- The catalog in a form. -/
def showCatalog (catalog : Catalog) : CatalogFormat → String
  | .text => catalog.plain
  | .json => catalog.toJson.pretty

/-- What is wrong with the catalog at a path, by default with the built-in one. -/
def problemsAt (wording : Wording) (repo : Repository) : Option Path → List String
  | some path => Catalog.doctor wording.readError repo path
  | none =>
    match builtinCatalog with
    | .ok _ => []
    | .error error => error.problems wording.readError

/-- Runs a command on a repository. -/
def Command.run (wording : Wording) (repo : Repository) : Command → Exit
  | .check strictness path format =>
    match catalogAt repo path with
    | .error error => .failed error
    | .ok found =>
      let report := lint repo found strictness
      .printed report.outcome.exitCode (showReport report format)
  | .catalog path format =>
    match catalogAt repo path with
    | .error error => .failed error
    | .ok found => .printed 0 (showCatalog found format)
  | .doctor path =>
    match problemsAt wording repo path with
    | [] => .printed 0 "catalog ok"
    | problems =>
      .printed usageCode ("\n".intercalate
        (problems.map (fun problem => s!"error: {problem}") ++
          [s!"catalog has {problems.length} problem(s)"]))
  | .schema => .printed 0 Report.jsonSchema.pretty

/-! ### The files a command looks at -/

/-- The paths that a catalog names, first the directory of the artifacts. -/
def catalogPaths (catalog : Catalog) : List Path :=
  catalog.outputRoot :: catalog.standardsDoc ::
    catalog.entries.flatMap fun entry => entry.template :: entry.agent.toList

/-- The file with the catalog of a command. -/
def Command.catalogPath? : Command → Option Path
  | .check _ path _ | .catalog path _ | .doctor path => path
  | .schema => none

/-- The paths that a command looks at, given a repository that holds its catalog. -/
def Command.paths (repo : Repository) (command : Command) : List Path :=
  let named :=
    match command with
    | .check _ path _ => (catalogAt repo path).toOption.elim [] catalogPaths
    | _ => []
  named ++ command.catalogPath?.toList

/-! ### The program -/

/-- The path of a place, from the top of the tree. -/
def placePath (place : FileTree.Place) : Path :=
  .ofComponents (.root :: place.map .name)

/-- Runs the program in a file tree, with the words on the command line and the strictness in the
environment. -/
def run (wording : Wording) (tree : FileTree) (words : List String) (fromEnv : Option String) : Exit :=
  match parse words fromEnv with
  | .usage => .usage
  | .version => .printed 0 versionLine
  | .help command form => ⟨0, wording.help command form, none⟩
  | .run repoRoot command =>
    command.run wording (tree.repository (repoRoot.getD (placePath tree.workingDirectory)))

end OutlineLint.CommandLine

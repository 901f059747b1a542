import OutlineLint.CommandLine.Options
import OutlineLint.Path.Basic
import OutlineLint.Strictness

/-!
# Commands

The program checks a repository, shows a catalog, looks for problems of a catalog, or prints the
schema of its reports. It can be asked for its version, and for help with itself or with a command.
-/

namespace OutlineLint.CommandLine

/-! ### Commands -/

/-- In which form a report is printed. -/
inductive ReportFormat
  | text
  | json
  | github
  deriving DecidableEq, Repr

/-- In which form a catalog is printed. -/
inductive CatalogFormat
  | text
  | json
  deriving DecidableEq, Repr

/-- What to do. Where no catalog is given the built-in one is meant. -/
inductive Command
  | check (strictness : Strictness) (catalog : Option Path) (format : ReportFormat)
  | catalog (catalog : Option Path) (format : CatalogFormat)
  | doctor (catalog : Option Path)
  | schema
  deriving DecidableEq, Repr

/-- What the words on the command line ask for. -/
inductive Request
  /-- The words are not understood. -/
  | usage
  | version
  /-- The help on the program, or on the command of the given name. -/
  | help (command : Option String) (form : HelpForm)
  | run (repoRoot : Option Path) (command : Command)
  deriving DecidableEq, Repr

/-! ### Options -/

def reportFormats : List (String × ReportFormat) :=
  [("text", .text), ("json", .json), ("github", .github)]

def catalogFormats : List (String × CatalogFormat) := [("text", .text), ("json", .json)]

/-- A path must not be empty. -/
def acceptsPath (value : String) : Bool := !value.isEmpty

def acceptsStrictness (value : String) : Bool := (Strictness.parse value).toOption.isSome

/-- The options that may stand before and after the name of a command. -/
def commonValued : List (String × (String → Bool)) := [("--repo-root", acceptsPath)]

def commonFlags : List String := ["--log-json"]

/-- The options before the name of a command. -/
def leadingOptions : OptionSet := ⟨commonValued, commonFlags, true⟩

/-- The options after the name of a command, given those of its own. -/
def commandOptions (own : List (String × (String → Bool))) : OptionSet :=
  ⟨own ++ commonValued, commonFlags, false⟩

def catalogOption : String × (String → Bool) := ("--catalog", acceptsPath)

def formatOption {α : Type} (formats : List (String × α)) : String × (String → Bool) :=
  ("--format", fun value => (formats.lookup value).isSome)

/-- The options of each command. -/
def optionsOf? : String → Option OptionSet
  | "check" =>
    some (commandOptions [("--strictness", acceptsStrictness), catalogOption,
      formatOption reportFormats])
  | "catalog" => some (commandOptions [catalogOption, formatOption catalogFormats])
  | "doctor" => some (commandOptions [catalogOption])
  | "schema" => some (commandOptions [])
  | _ => none

/-! ### Reading the command line -/

/-- The path that was given under a name. -/
def Given.path? (given : Given) (name : String) : Option Path :=
  (given.value? name).map Path.ofString

/-- The format that was given, by default the plain one. -/
def Given.format {α : Type} (given : Given) (formats : List (String × α)) (plain : α) : α :=
  ((given.value? "--format").bind fun value => formats.lookup value).getD plain

/-- The strictness that was given, otherwise the one in the environment, by default relaxed; `none`
if the name is not known. -/
def Given.strictness? (given : Given) (fromEnv : Option String) : Option Strictness :=
  match (given.value? "--strictness").or fromEnv with
  | some text => (Strictness.parse text).toOption
  | none => some .relaxed

/-- The command with the given name and options. -/
def commandOf? (name : String) (given : Given) (fromEnv : Option String) : Option Command :=
  let catalog := given.path? "--catalog"
  match name with
  | "check" =>
    (given.strictness? fromEnv).map fun strictness =>
      .check strictness catalog (given.format reportFormats .text)
  | "catalog" => some (.catalog catalog (given.format catalogFormats .text))
  | "doctor" => some (.doctor catalog)
  | "schema" => some .schema
  | _ => none

/-- What the words after the name of a command ask for, with the options given before it. -/
def parseCommand (leading : Given) (name : String) (options : OptionSet) (words : List String)
    (fromEnv : Option String) : Request :=
  match scan options .empty words with
  | .usage | .version => .usage
  | .help form => .help (some name) form
  | .done given rest =>
    if rest.isEmpty || rest == ["--"] then
      match commandOf? name given fromEnv with
      | some command => .run ((given.path? "--repo-root").or (leading.path? "--repo-root")) command
      | none => .usage
    else .usage

/-- What the words on the command line ask for, with the strictness in the environment. -/
def parse (words : List String) (fromEnv : Option String) : Request :=
  match scan leadingOptions .empty words with
  | .usage => .usage
  | .version => .version
  | .help form => .help none form
  | .done _ [] => .usage
  | .done leading (name :: rest) =>
    match optionsOf? name with
    | some options => parseCommand leading name options rest fromEnv
    | none => .usage

end OutlineLint.CommandLine

import OutlineLint.Catalog.Reader
import OutlineLint.Path.Normal
import OutlineLint.Repository

/-!
# Loading catalogs

A catalog is the text of a file in the repository. Loading it fails if the file cannot be read, if
the text is no sheet, or if the sheet has problems; the doctor lists what is wrong.
-/

namespace OutlineLint.Catalog

/-- Why there is no catalog. -/
inductive Error
  | read (path : String) (error : AccessError)
  /-- The text that was read, and why it is no sheet. -/
  | parse (text : String) (error : ReadError)
  | invalid (problems : List Problem)
  deriving DecidableEq, Repr

namespace Error

variable (wording : ReadError.Wording)

def message : Error → String
  | read path error => s!"failed to read catalog {path}: {error.message}"
  | parse text error => s!"failed to parse catalog: {wording text error}"
  | invalid problems => "invalid catalog: " ++ "; ".intercalate (problems.map (·.message))

/-- Everything that is wrong, each for itself. -/
def problems : Error → List String
  | invalid problems => problems.map (·.message)
  | error => [error.message wording]

end Error

/-- Reads and checks a catalog. -/
def parse (text : String) : Except Error Catalog :=
  match Sheet.parse text with
  | .error error => .error (.parse text error)
  | .ok sheet => sheet.catalog.mapError .invalid

/-- Reads and checks the catalog in a file. -/
def load (repo : Repository) (path : Path) : Except Error Catalog :=
  match repo.read path with
  | .error error => .error (.read path.display error)
  | .ok text => parse text

/-- What is wrong with the catalog in a file; nothing if it can be used. -/
def doctor (wording : ReadError.Wording) (repo : Repository) (path : Path) : List String :=
  match load repo path with
  | .error error => error.problems wording
  | .ok _ => []

end OutlineLint.Catalog

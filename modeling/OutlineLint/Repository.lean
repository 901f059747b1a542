import OutlineLint.Path.Basic

/-!
# Repositories

A repository is seen only through questions about paths: is there something, what does a file hold,
which files are below a directory. Answers can fail; a failure carries the path as it was used.
-/

namespace OutlineLint

/-! ### Failed accesses -/

/-- What was tried on a path. -/
inductive Operation
  | listDirectory
  | nextEntry
  | entryType
  | readText
  deriving DecidableEq, Repr

def Operation.name : Operation → String
  | listDirectory => "read_dir"
  | nextEntry => "read_dir_entry"
  | entryType => "file_type"
  | readText => "read_to_string"

/-- Why an access failed. -/
inductive AccessError
  /-- The path is not one that this repository may give. -/
  | pathViolation (path : Path) (detail : String)
  /-- The operation failed. -/
  | io (operation : Operation) (path : Path) (detail : String)
  deriving DecidableEq, Repr

def AccessError.message : AccessError → String
  | .pathViolation path detail => s!"path violation: {path.text} ({detail})"
  | .io operation path detail => s!"io error: {operation.name} {path.text} ({detail})"

/-! ### The questions -/

/-- What the checks see of the files to check. Relative paths are seen from the root. -/
structure Repository where
  /-- The root as it was given; reports name it. -/
  root : Path
  /-- Whether there is something at a path. -/
  isPresent : Path → Bool
  /-- The text of a file. -/
  read : Path → Except AccessError String
  /-- The files below a directory, as seen from the root. -/
  files : Path → Except AccessError (List Path)

end OutlineLint

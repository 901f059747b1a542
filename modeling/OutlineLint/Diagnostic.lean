/-!
# Diagnostics

A diagnostic says what is wrong, how severe it is and, as far as it concerns a file, where. Its code
classifies it and gives it its usual title.
-/

namespace OutlineLint

/-! ### Severities -/

/-- A warning is less severe than an error. -/
inductive Severity
  | warning
  | error
  deriving DecidableEq, Repr

namespace Severity

/-- All severities, from the least. -/
def all : List Severity := [warning, error]

def name : Severity → String
  | warning => "warning"
  | error => "error"

/-- The position in `all`. -/
def rank : Severity → Nat
  | warning => 0
  | error => 1

instance : Ord Severity := ⟨fun a b => compare a.rank b.rank⟩

end Severity

namespace Diagnostic

/-! ### Codes -/

/-- What a diagnostic is about. -/
inductive Code
  | structuralMissing
  | structuralOrder
  | structuralExtra
  | structuralMisplacedOptional
  | referenceMissing
  | skeletonEmbedded
  | resourceMissing
  | standardsDriftHeuristic
  | artifactsAbsent
  deriving DecidableEq, Repr

/-- The title of a template or a document that has drifted. -/
def driftTitle : String := "Artifact Template Drift"

/-- The title of a file that is not there. -/
def missingTitle : String := "Missing Template or Agent"

namespace Code

/-- All codes, in their order. -/
def all : List Code :=
  [structuralMissing, structuralOrder, structuralExtra, structuralMisplacedOptional,
    referenceMissing, skeletonEmbedded, resourceMissing, standardsDriftHeuristic, artifactsAbsent]

def name : Code → String
  | structuralMissing => "structural_missing"
  | structuralOrder => "structural_order"
  | structuralExtra => "structural_extra"
  | structuralMisplacedOptional => "structural_misplaced_optional"
  | referenceMissing => "reference_missing"
  | skeletonEmbedded => "skeleton_embedded"
  | resourceMissing => "resource_missing"
  | standardsDriftHeuristic => "standards_drift_heuristic"
  | artifactsAbsent => "artifacts_absent"

/-- The position in `all`. -/
def rank : Code → Nat
  | structuralMissing => 0
  | structuralOrder => 1
  | structuralExtra => 2
  | structuralMisplacedOptional => 3
  | referenceMissing => 4
  | skeletonEmbedded => 5
  | resourceMissing => 6
  | standardsDriftHeuristic => 7
  | artifactsAbsent => 8

instance : Ord Code := ⟨fun a b => compare a.rank b.rank⟩

instance : ToString Code := ⟨Code.name⟩

/-- The usual title of a diagnostic with this code. -/
def title : Code → String
  | resourceMissing => missingTitle
  | _ => driftTitle

end Code

end Diagnostic

/-! ### Diagnostics -/

/-- One finding of a check. -/
structure Diagnostic where
  code : Diagnostic.Code
  severity : Severity
  title : String
  message : String
  hint : Option String
  path : Option String
  line : Option Nat
  deriving DecidableEq, Repr

namespace Diagnostic

/-- A diagnostic with the title of its code, about no file and without a hint. -/
def ofCode (code : Code) (severity : Severity) (message : String) : Diagnostic where
  code := code
  severity := severity
  title := code.title
  message := message
  hint := none
  path := none
  line := none

def error (code : Code) (message : String) : Diagnostic :=
  ofCode code .error message

def warning (code : Code) (message : String) : Diagnostic :=
  ofCode code .warning message

/-- Places a diagnostic at a file as a whole, which is shown as its first line. -/
def atFile (d : Diagnostic) (path : String) : Diagnostic :=
  { d with path := some path, line := some 1 }

def withTitle (d : Diagnostic) (title : String) : Diagnostic :=
  { d with title := title }

def withHint (d : Diagnostic) (hint : String) : Diagnostic :=
  { d with hint := some hint }

end Diagnostic

end OutlineLint

import OutlineLint.Diagnostic
import OutlineLint.Strictness

/-!
# Reports

While a run goes on, its diagnostics are collected in a draft, which also notes whether an error and
whether a warning is among them. A finished report adds counts and the outcome.
-/

namespace OutlineLint

/-! ### Outcomes -/

/-- How a run ended. -/
inductive Outcome
  | pass
  | passWithWarnings
  | fail
  deriving DecidableEq, Repr

namespace Outcome

/-- All outcomes, from the best. -/
def all : List Outcome := [pass, passWithWarnings, fail]

def name : Outcome → String
  | pass => "pass"
  | passWithWarnings => "pass_with_warnings"
  | fail => "fail"

/-- An error makes a run fail; otherwise a warning is worth mentioning. -/
def ofFlags (hasError hasWarning : Bool) : Outcome :=
  if hasError then fail else if hasWarning then passWithWarnings else pass

/-- The last line of a printed report. -/
def verdict : Outcome → String
  | fail => "Validation FAILED - hard failures detected"
  | passWithWarnings => "Validation passed with warnings"
  | pass => "Validation passed - no issues detected"

/-- The exit code of a program that ends with the outcome. -/
def exitCode : Outcome → Nat
  | fail => 1
  | passWithWarnings | pass => 0

end Outcome

/-! ### Finished reports -/

/-- The numbers of errors, of warnings, and of the artifacts looked at. -/
structure Report.Summary where
  errors : Nat
  warnings : Nat
  artifacts : Nat
  deriving DecidableEq, Repr

structure Report where
  repoRoot : String
  strictness : Strictness
  /-- The artifacts looked at. -/
  artifacts : List String
  diagnostics : List Diagnostic
  summary : Report.Summary
  outcome : Outcome
  deriving DecidableEq, Repr

namespace Report

/-! ### Drafts -/

/-- What a run has found so far. -/
structure Draft where
  diagnostics : List Diagnostic
  hasError : Bool
  hasWarning : Bool
  deriving DecidableEq, Repr

namespace Draft

/-- Nothing is found yet. -/
def empty : Draft := ⟨[], false, false⟩

/-- Adds a diagnostic at the end. -/
def emit (draft : Draft) (d : Diagnostic) : Draft where
  diagnostics := draft.diagnostics ++ [d]
  hasError := draft.hasError || d.severity == .error
  hasWarning := draft.hasWarning || d.severity == .warning

/-- Adds diagnostics one after the other. -/
def extend (draft : Draft) (ds : List Diagnostic) : Draft :=
  ds.foldl emit draft

/-- The outcome of a run that ends here. -/
def outcome (draft : Draft) : Outcome := .ofFlags draft.hasError draft.hasWarning

/-- The number of diagnostics of a severity. -/
def count (draft : Draft) (severity : Severity) : Nat :=
  draft.diagnostics.countP (·.severity == severity)

/-- The report of a run that ends here. -/
def finish (draft : Draft) (repoRoot : String) (strictness : Strictness)
    (artifacts : List String) : Report where
  repoRoot := repoRoot
  strictness := strictness
  artifacts := artifacts
  diagnostics := draft.diagnostics
  summary := ⟨draft.count .error, draft.count .warning, artifacts.length⟩
  outcome := draft.outcome

end Draft

end Report

end OutlineLint

import OutlineLint.Proofs.Lint.Findings
import OutlineLint.Proofs.Report.Workflow

/-!
# Accounts of a run

Diagnostics are added to a draft one at a time or several at once. However the two take turns, the
draft holds all of them in the order in which they came, and at every time its flags tell which
severities there are (`Draft.faithful_ofCalls`). The report of such a draft counts them, and its
outcome follows from the counts (`Draft.Faithful.balanced_finish`). So the exit code of a run, and
the last line of its report in either printed form, tell whether an error was counted
(`accounts_of_runs`).
-/

namespace OutlineLint

open Lint (lint_eq)

/-! ### Counts of severities -/

lemma HasError.iff_countP_pos {ds : List Diagnostic} :
    HasError ds ↔ 0 < ds.countP (·.severity == .error) := by
  simp [HasError, List.countP_pos_iff]

/-- There is no third severity. -/
lemma countP_error_add_countP_warning (ds : List Diagnostic) :
    ds.countP (·.severity == .error) + ds.countP (·.severity == .warning) = ds.length := by
  rw [List.length_eq_countP_add_countP (·.severity == .error)]
  congr 1
  apply List.countP_congr
  intro d _
  cases hseverity : d.severity with
  | error => simp
  | warning => simp

/-- Only a failure has the verdict of one. -/
lemma Outcome.verdict_eq_iff {outcome : Outcome} :
    outcome.verdict = "Validation FAILED - hard failures detected" ↔ outcome = fail := by
  cases outcome <;> decide

namespace Report

/-! ### Balanced reports -/

/-- The counts and the outcome of a report are true to its diagnostics and artifacts. -/
structure Balanced (report : Report) : Prop where
  errors_eq : report.summary.errors = report.diagnostics.countP (·.severity == .error)
  warnings_eq : report.summary.warnings = report.diagnostics.countP (·.severity == .warning)
  errors_add_warnings : report.summary.errors + report.summary.warnings = report.diagnostics.length
  artifacts_eq : report.summary.artifacts = report.artifacts.length
  outcome_eq_fail_iff : report.outcome = .fail ↔ 0 < report.summary.errors
  outcome_eq_passWithWarnings_iff : report.outcome = .passWithWarnings ↔
    report.summary.errors = 0 ∧ 0 < report.summary.warnings
  outcome_eq_pass_iff : report.outcome = .pass ↔ report.diagnostics = []

namespace Draft

variable {draft : Draft}

lemma Faithful.hasError_eq (h : draft.Faithful) :
    draft.hasError = draft.diagnostics.any (·.severity == .error) := by
  rw [Bool.eq_iff_iff, h.hasError_iff]
  simp [HasError]

lemma Faithful.hasWarning_eq (h : draft.Faithful) :
    draft.hasWarning = draft.diagnostics.any (·.severity == .warning) := by
  rw [Bool.eq_iff_iff, h.hasWarning_iff]
  simp

/-- Flags that are true to the diagnostics give an outcome that is true to the counts. -/
lemma Faithful.balanced_finish (h : draft.Faithful) (root : String) (strictness : Strictness)
    (artifacts : List String) : (draft.finish root strictness artifacts).Balanced := by
  have hfail : (draft.finish root strictness artifacts).outcome = .fail ↔
      0 < draft.diagnostics.countP (·.severity == .error) := by
    rw [outcome_finish_eq_fail_iff h, HasError.iff_countP_pos]
  have hpass : (draft.finish root strictness artifacts).outcome = .pass ↔
      draft.diagnostics = [] := outcome_finish_eq_pass_iff h
  have hlength := countP_error_add_countP_warning draft.diagnostics
  refine ⟨rfl, rfl, hlength, rfl, hfail, ?_, hpass⟩
  show _ ↔ draft.diagnostics.countP (·.severity == .error) = 0 ∧
    0 < draft.diagnostics.countP (·.severity == .warning)
  rw [← List.length_eq_zero_iff] at hpass
  cases houtcome : (draft.finish root strictness artifacts).outcome with
  | pass =>
    have := hpass.mp houtcome
    simp only [reduceCtorEq, false_iff]
    omega
  | fail =>
    have := hfail.mp houtcome
    simp only [reduceCtorEq, false_iff]
    omega
  | passWithWarnings =>
    have hno : ¬ 0 < draft.diagnostics.countP (·.severity == .error) := by simp [← hfail, houtcome]
    have hsome : ¬ draft.diagnostics.length = 0 := by simp only [← hpass, houtcome]; simp
    simp only [true_iff]
    omega

/-! ### Rows of calls -/

/-- One call on a draft. -/
inductive Call
  | emit (d : Diagnostic)
  | extend (ds : List Diagnostic)

namespace Call

/-- The diagnostics that a call hands over. -/
def diagnostics : Call → List Diagnostic
  | emit d => [d]
  | extend ds => ds

/-- The draft after a call. -/
def apply (draft : Draft) : Call → Draft
  | emit d => draft.emit d
  | extend ds => draft.extend ds

lemma diagnostics_apply (draft : Draft) (call : Call) :
    (call.apply draft).diagnostics = draft.diagnostics ++ call.diagnostics := by
  cases call with
  | emit d => rfl
  | extend ds => exact diagnostics_extend draft ds

/-- What one call preserves. -/
lemma faithful_apply (h : draft.Faithful) (call : Call) : (call.apply draft).Faithful := by
  cases call with
  | emit d => exact h.emit d
  | extend ds => exact h.extend ds

end Call

/-- A new draft after a row of calls. -/
def ofCalls (calls : List Call) : Draft := calls.foldl Call.apply empty

/-- All diagnostics that a row of calls hands over. -/
def emitted (calls : List Call) : List Diagnostic := calls.flatMap Call.diagnostics

lemma diagnostics_foldl_apply (draft : Draft) (calls : List Call) :
    (calls.foldl Call.apply draft).diagnostics = draft.diagnostics ++ emitted calls := by
  induction calls generalizing draft with
  | nil => simp [emitted]
  | cons call calls ih => simp [ih, Call.diagnostics_apply, emitted]

@[simp] lemma diagnostics_ofCalls (calls : List Call) :
    (ofCalls calls).diagnostics = emitted calls :=
  (diagnostics_foldl_apply empty calls).trans (List.nil_append _)

lemma faithful_foldl_apply (h : draft.Faithful) (calls : List Call) :
    (calls.foldl Call.apply draft).Faithful := by
  induction calls generalizing draft with
  | nil => exact h
  | cons call calls ih => exact ih (call.faithful_apply h)

/-- Whatever the calls are, the flags are true to the diagnostics. -/
lemma faithful_ofCalls (calls : List Call) : (ofCalls calls).Faithful :=
  faithful_foldl_apply Faithful.empty calls

end Draft

/-! ### The last line -/

variable {report : Report}

/-- Both printed forms end with the verdict, on a line of its own. -/
lemma getLast?_rawLines_closingLines (lines : List String) :
    (Text.rawLines ("\n".intercalate (lines ++ report.closingLines)).toList).getLast? =
      some report.outcome.verdict.toList := by
  have hverdict : '\n' ∉ report.outcome.verdict.toList :=
    (unbroken_closingLines report _ (by simp [closingLines])).1
  have hlines : ("\n".intercalate (lines ++ report.closingLines)).toList =
      Text.unlines ((lines ++ [report.summaryLine]).map String.toList ++
        [report.outcome.verdict.toList]) := by
    simp [Text.unlines, String.toList_intercalate, closingLines]
  rw [hlines]
  exact Text.getLast?_rawLines_unlines _ hverdict

lemma getLast?_rawLines_plain (report : Report) :
    (Text.rawLines report.plain.toList).getLast? = some report.outcome.verdict.toList :=
  getLast?_rawLines_closingLines _

lemma getLast?_outputLines (report : Report) :
    report.outputLines.getLast? = some report.outcome.verdict.toList :=
  getLast?_rawLines_closingLines _

lemma Balanced.exitCode_eq_one_iff (h : report.Balanced) :
    report.outcome.exitCode = 1 ↔ 0 < report.summary.errors :=
  Outcome.exitCode_eq_one_iff.trans h.outcome_eq_fail_iff

lemma Balanced.verdict_eq_iff (h : report.Balanced) :
    some report.outcome.verdict.toList =
        some "Validation FAILED - hard failures detected".toList ↔
      0 < report.summary.errors := by
  rw [Option.some_inj, String.toList_inj, ← h.outcome_eq_fail_iff]
  exact Outcome.verdict_eq_iff

end Report

lemma Lint.balanced_lint (repo : Repository) (catalog : Catalog) (strictness : Strictness) :
    (lint repo catalog strictness).Balanced := by
  rw [lint_eq]
  exact (Report.Draft.faithful_extend_empty _).balanced_finish _ _ _

open Report in
/-- However single diagnostics and lists of them are added to a new draft, its report holds them in
the order in which they came, counts them by severity, and has the outcome that follows from the
counts; after any number of calls the flags tell whether an error and whether a warning was among
what came until then. So a run over a repository exits with code one, and each printed form of its
report has the verdict of a failure in its last line, if and only if the report counts an error. -/
theorem accounts_of_runs :
    (∀ (calls : List Draft.Call) (root : String) (strictness : Strictness)
      (artifacts : List String),
      let report := (Draft.ofCalls calls).finish root strictness artifacts
      report.diagnostics = Draft.emitted calls ∧ report.artifacts = artifacts ∧ report.Balanced ∧
      ∀ n, let soFar := Draft.emitted (calls.take n)
        (Draft.ofCalls (calls.take n)).hasError = soFar.any (·.severity == .error) ∧
        (Draft.ofCalls (calls.take n)).hasWarning = soFar.any (·.severity == .warning)) ∧
    ∀ (repo : Repository) (catalog : Catalog) (strictness : Strictness),
      let report := lint repo catalog strictness
      (report.outcome.exitCode = 1 ↔ 0 < report.summary.errors) ∧
      ((Text.rawLines report.plain.toList).getLast? =
          some "Validation FAILED - hard failures detected".toList ↔
        0 < report.summary.errors) ∧
      (report.outputLines.getLast? =
          some "Validation FAILED - hard failures detected".toList ↔
        0 < report.summary.errors) := by
  constructor
  · intro calls root strictness artifacts report
    refine ⟨Draft.diagnostics_ofCalls calls, rfl, ?_, fun n => ?_⟩
    · exact (Draft.faithful_ofCalls calls).balanced_finish root strictness artifacts
    · have hprior := Draft.faithful_ofCalls (calls.take n)
      rw [hprior.hasError_eq, hprior.hasWarning_eq, Draft.diagnostics_ofCalls]
      exact ⟨rfl, rfl⟩
  · intro repo catalog strictness report
    have hbalanced : report.Balanced := Lint.balanced_lint repo catalog strictness
    refine ⟨hbalanced.exitCode_eq_one_iff, ?_, ?_⟩
    · rw [getLast?_rawLines_plain]
      exact hbalanced.verdict_eq_iff
    · rw [getLast?_outputLines]
      exact hbalanced.verdict_eq_iff

end OutlineLint

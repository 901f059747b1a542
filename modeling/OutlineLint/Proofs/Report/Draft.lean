import OutlineLint.Proofs.Diagnostic
import OutlineLint.Report.Basic

/-!
# What a draft notes

The flags of a draft are true to its diagnostics (`Draft.Faithful`): nothing is noted before the
first diagnostic, and every further diagnostic keeps them so. Hence a report fails if and only if
one of its diagnostics is an error (`outcome_finish_eq_fail_iff`).
-/

namespace OutlineLint

namespace Report.Draft

/-! ### Adding diagnostics -/

@[simp] lemma extend_nil (draft : Draft) : draft.extend [] = draft := rfl

@[simp] lemma extend_cons (draft : Draft) (d : Diagnostic) (ds : List Diagnostic) :
    draft.extend (d :: ds) = (draft.emit d).extend ds := rfl

lemma extend_append (draft : Draft) (ds es : List Diagnostic) :
    draft.extend (ds ++ es) = (draft.extend ds).extend es :=
  List.foldl_append

@[simp] lemma diagnostics_extend (draft : Draft) (ds : List Diagnostic) :
    (draft.extend ds).diagnostics = draft.diagnostics ++ ds := by
  induction ds generalizing draft with
  | nil => simp
  | cons d ds ih => simp [ih, emit]

/-! ### Flags -/

/-- The flags tell which severities there are among the diagnostics. -/
structure Faithful (draft : Draft) : Prop where
  hasError_iff : draft.hasError = true ↔ HasError draft.diagnostics
  hasWarning_iff : draft.hasWarning = true ↔ ∃ d ∈ draft.diagnostics, d.severity = .warning

lemma Faithful.empty : Faithful .empty := by
  constructor <;> simp [Draft.empty]

lemma Faithful.emit {draft : Draft} (h : draft.Faithful) (d : Diagnostic) :
    (draft.emit d).Faithful where
  hasError_iff := by simp [Draft.emit, h.hasError_iff]
  hasWarning_iff := by simp [Draft.emit, h.hasWarning_iff, or_and_right, exists_or]

lemma Faithful.extend {draft : Draft} (h : draft.Faithful) (ds : List Diagnostic) :
    (draft.extend ds).Faithful := by
  induction ds generalizing draft with
  | nil => exact h
  | cons d ds ih => exact ih (h.emit d)

lemma faithful_extend_empty (ds : List Diagnostic) : (Draft.empty.extend ds).Faithful :=
  Faithful.empty.extend ds

end Report.Draft

/-! ### Outcomes -/

namespace Outcome

lemma ofFlags_eq_fail_iff {hasError hasWarning : Bool} :
    ofFlags hasError hasWarning = fail ↔ hasError = true := by
  cases hasError <;> cases hasWarning <;> simp [ofFlags]

lemma ofFlags_eq_pass_iff {hasError hasWarning : Bool} :
    ofFlags hasError hasWarning = pass ↔ hasError = false ∧ hasWarning = false := by
  cases hasError <;> cases hasWarning <;> simp [ofFlags]

lemma exitCode_eq_one_iff {outcome : Outcome} : outcome.exitCode = 1 ↔ outcome = fail := by
  cases outcome <;> simp [exitCode]

/-- The position in `all`: the worse outcome has the greater rank. -/
def rank : Outcome → Nat
  | pass => 0
  | passWithWarnings => 1
  | fail => 2

lemma rank_le_rank_iff {a b : Outcome} :
    a.rank ≤ b.rank ↔ (a = fail → b = fail) ∧ (b = pass → a = pass) := by
  cases a <;> cases b <;> simp [rank]

lemma exitCode_le_exitCode_of_rank_le {a b : Outcome} (h : a.rank ≤ b.rank) :
    a.exitCode ≤ b.exitCode := by
  cases a <;> cases b <;> simp_all [rank, exitCode]

end Outcome

/-- A report fails if and only if one of its diagnostics is an error. -/
lemma Report.Draft.outcome_finish_eq_fail_iff {draft : Draft} (h : draft.Faithful) {root : String}
    {strictness : Strictness} {artifacts : List String} :
    (draft.finish root strictness artifacts).outcome = .fail ↔ HasError draft.diagnostics :=
  Outcome.ofFlags_eq_fail_iff.trans h.hasError_iff

/-- A report passes without a warning if and only if it has no diagnostic. -/
lemma Report.Draft.outcome_finish_eq_pass_iff {draft : Draft} (h : draft.Faithful) {root : String}
    {strictness : Strictness} {artifacts : List String} :
    (draft.finish root strictness artifacts).outcome = .pass ↔ draft.diagnostics = [] := by
  have hflags : (draft.finish root strictness artifacts).outcome = .pass ↔
      draft.hasError = false ∧ draft.hasWarning = false := Outcome.ofFlags_eq_pass_iff
  rw [hflags, ← Bool.not_eq_true, ← Bool.not_eq_true, h.hasError_iff, h.hasWarning_iff]
  constructor
  · rintro ⟨herror, hwarning⟩
    refine List.eq_nil_iff_forall_not_mem.mpr fun d hd => ?_
    cases hseverity : d.severity with
    | error => exact herror ⟨d, hd, hseverity⟩
    | warning => exact hwarning ⟨d, hd, hseverity⟩
  · intro hnil
    simp [hnil]

end OutlineLint

import Mathlib.Tactic.Lemma
import OutlineLint.Diagnostic

/-!
# Severities of diagnostics

Neither the place of a diagnostic nor its title or hint change how severe it is.
-/

namespace OutlineLint

/-! ### Severities -/

namespace Diagnostic

@[simp] lemma severity_ofCode {code : Code} {severity : Severity} {message : String} :
    (ofCode code severity message).severity = severity := rfl

@[simp] lemma severity_error {code : Code} {message : String} :
    (error code message).severity = .error := rfl

@[simp] lemma severity_warning {code : Code} {message : String} :
    (warning code message).severity = .warning := rfl

@[simp] lemma severity_atFile {d : Diagnostic} {path : String} :
    (d.atFile path).severity = d.severity := rfl

@[simp] lemma severity_withTitle {d : Diagnostic} {title : String} :
    (d.withTitle title).severity = d.severity := rfl

@[simp] lemma severity_withHint {d : Diagnostic} {hint : String} :
    (d.withHint hint).severity = d.severity := rfl

end Diagnostic

/-! ### Errors in a list -/

/-- One of the diagnostics is an error. -/
def HasError (ds : List Diagnostic) : Prop := ∃ d ∈ ds, d.severity = .error

namespace HasError

@[simp] lemma nil_iff : HasError [] ↔ False := by simp [HasError]

@[simp] lemma cons_iff {d : Diagnostic} {ds : List Diagnostic} :
    HasError (d :: ds) ↔ d.severity = .error ∨ HasError ds := by
  simp [HasError]

@[simp] lemma append_iff {ds es : List Diagnostic} :
    HasError (ds ++ es) ↔ HasError ds ∨ HasError es := by
  simp [HasError, or_and_right, exists_or]

@[simp] lemma flatMap_iff {α : Type} {xs : List α} {f : α → List Diagnostic} :
    HasError (xs.flatMap f) ↔ ∃ x ∈ xs, HasError (f x) := by
  simp only [HasError, List.mem_flatMap]
  constructor
  · rintro ⟨d, ⟨x, hx, hd⟩, herror⟩
    exact ⟨x, hx, d, hd, herror⟩
  · rintro ⟨x, hx, d, hd, herror⟩
    exact ⟨d, ⟨x, hx, hd⟩, herror⟩

@[simp] lemma toList_iff {d? : Option Diagnostic} :
    HasError d?.toList ↔ ∃ d, d? = some d ∧ d.severity = .error := by
  simp [HasError]

end HasError

end OutlineLint

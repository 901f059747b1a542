import Mathlib.Data.List.Basic
import OutlineLint.Proofs.Lint.Shape

/-!
# Runs under the two strictnesses

Strictness has a part in the last step of a run only, in which artifacts are looked at. There each
diagnostic under the relaxed strictness comes from one under the standard strictness: extra headings
are left out, missing headings become a warning, and the rest stays (`relaxed?`). So a run under the
relaxed strictness never ends worse (`lint_relaxed_of_standard`).
-/

namespace OutlineLint.Lint

/-- What becomes of a diagnostic about the artifacts under the relaxed strictness. -/
def relaxed? (d : Diagnostic) : Option Diagnostic :=
  match d.code with
  | .structuralExtra => none
  | .structuralMissing => some { d with severity := .warning }
  | _ => some d

variable {repo : Repository} {catalog : Catalog}

/-! ### Single diagnostics -/

/-- Nothing becomes an error. -/
lemma severity_of_relaxed? {d e : Diagnostic} (h : relaxed? d = some e)
    (herror : e.severity = .error) : d.severity = .error := by
  rw [relaxed?] at h
  split at h
  · contradiction
  · obtain rfl := Option.some.inj h
    contradiction
  · obtain rfl := Option.some.inj h
    exact herror

lemma diagnostic?_relaxed (path template : String) (deviation : Deviation) :
    Check.diagnostic? path template (.artifact .relaxed) deviation =
      (Check.diagnostic? path template (.artifact .standard) deviation).bind relaxed? := by
  cases deviation with
  | missing headings => rfl
  | outOfOrder before after position => rfl
  | extra headings => rfl
  | optionalMisplaced heading anchor => rfl

lemma relaxed?_missing (resource : Resource) (path : Path) :
    relaxed? (missing resource path) = some (missing resource path) := by
  cases resource <;> rfl

/-! ### Lists of diagnostics -/

lemma hasError_of_filterMap_relaxed? {ds : List Diagnostic} (h : HasError (ds.filterMap relaxed?)) :
    HasError ds := by
  obtain ⟨e, he, herror⟩ := h
  obtain ⟨d, hd, hrelaxed⟩ := List.mem_filterMap.mp he
  exact ⟨d, hd, severity_of_relaxed? hrelaxed herror⟩

lemma countP_filterMap_relaxed?_le (ds : List Diagnostic) :
    (ds.filterMap relaxed?).countP (·.severity == .error) ≤ ds.countP (·.severity == .error) := by
  rw [List.countP_filterMap]
  refine List.countP_mono_left fun d _ h => ?_
  cases hrelaxed : relaxed? d with
  | none => simp [hrelaxed] at h
  | some e =>
    simp only [hrelaxed, Option.map_some, Option.getD_some, beq_iff_eq] at h ⊢
    exact severity_of_relaxed? hrelaxed h

/-! ### The last step -/

lemma artifact_relaxed (entry : Catalog.Entry) (path : Path) (text : String) :
    Check.artifact entry .relaxed path text =
      (Check.artifact entry .standard path text).filterMap relaxed? := by
  rw [Check.artifact, Check.artifact, List.filterMap_filterMap]
  exact List.filterMap_congr fun deviation _ => diagnostic?_relaxed _ _ deviation

lemma artifactFindings_relaxed (found : Path × Catalog.Entry) :
    artifactFindings repo .relaxed found =
      (artifactFindings repo .standard found).filterMap relaxed? := by
  rw [artifactFindings, artifactFindings]
  by_cases hpresent : repo.isPresent found.1 = true
  · rw [if_pos hpresent, if_pos hpresent, fileFindings, fileFindings]
    have hload := LoadRule.of_load repo .artifact found.1
    generalize load repo .artifact found.1 = loaded at hload
    cases hload with
    | absent habsent => simp [relaxed?_missing]
    | unreadable hpresent hread => rfl
    | read hpresent hread => exact artifact_relaxed found.2 found.1 _
  · rw [if_neg hpresent, if_neg hpresent, List.filterMap_nil]

lemma outputFindings_relaxed :
    outputFindings repo catalog .relaxed =
      (outputFindings repo catalog .standard).filterMap relaxed? := by
  rw [outputFindings, outputFindings]
  cases repo.files catalog.outputRoot with
  | error error => rfl
  | ok files =>
    cases hfound : catalog.matched files with
    | nil => simp only [hfound]; rfl
    | cons first rest =>
      simp only [hfound]
      rw [List.filterMap_flatMap]
      exact List.flatMap_congr fun found _ => artifactFindings_relaxed found

/-- Missing headings of an artifact are an error under the standard strictness. -/
lemma severity_of_mem_outputFindings {d : Diagnostic}
    (h : d ∈ outputFindings repo catalog .standard) (hcode : d.code = .structuralMissing) :
    d.severity = .error := by
  have hfits := (regular_of_mem_outputFindings h).severity
  simp only [SeverityFits, hcode] at hfits
  cases hseverity : d.severity with
  | error => rfl
  | warning => exact absurd (hfits hseverity) (by decide)

/-! ### Runs -/

lemma findings_relaxed :
    findings repo catalog .relaxed =
      documentFindings repo catalog ++
        (outputFindings repo catalog .standard).filterMap relaxed? := by
  rw [findings_eq, outputFindings_relaxed]

/-- What a draft gets in the last step. -/
lemma diagnostics_checkArtifacts_empty (strictness : Strictness) :
    (checkArtifacts repo catalog strictness .empty).1.diagnostics =
      outputFindings repo catalog strictness := by
  rw [checkArtifacts_eq]
  exact Report.Draft.diagnostics_extend ..

lemma rank_outcome_relaxed_le :
    (lint repo catalog .relaxed).outcome.rank ≤ (lint repo catalog .standard).outcome.rank := by
  rw [Outcome.rank_le_rank_iff]
  constructor
  · intro hfail
    rw [outcome_lint_eq_fail_iff_hasError, findings_relaxed, HasError.append_iff] at hfail
    rw [outcome_lint_eq_fail_iff_hasError, findings_eq, HasError.append_iff]
    exact hfail.imp_right hasError_of_filterMap_relaxed?
  · intro hpass
    rw [outcome_lint_eq_pass_iff, findings_eq, List.append_eq_nil_iff] at hpass
    rw [outcome_lint_eq_pass_iff, findings_relaxed, hpass.1, hpass.2]
    rfl

lemma errors_relaxed_le :
    (lint repo catalog .relaxed).summary.errors ≤ (lint repo catalog .standard).summary.errors := by
  rw [errors_lint, errors_lint, findings_relaxed, findings_eq, List.countP_append,
    List.countP_append]
  exact Nat.add_le_add_left (countP_filterMap_relaxed?_le _) _

/-- Runs under the two strictnesses look at the same artifacts and report the same but for what the
last step finds, where the relaxed strictness leaves out extra headings and turns missing headings,
which are errors under the standard one, into warnings. So under the relaxed strictness a run ends
no worse, has no more errors and exits with no greater code. -/
theorem lint_relaxed_of_standard (repo : Repository) (catalog : Catalog) :
    let relaxed := lint repo catalog .relaxed
    let standard := lint repo catalog .standard
    let ofArtifacts := (checkArtifacts repo catalog .standard .empty).1.diagnostics
    relaxed.artifacts = standard.artifacts ∧
      (∃ ofDocuments, standard.diagnostics = ofDocuments ++ ofArtifacts ∧
        relaxed.diagnostics = ofDocuments ++ ofArtifacts.filterMap relaxed?) ∧
      (∀ d ∈ ofArtifacts, d.code = .structuralMissing → d.severity = .error) ∧
      relaxed.outcome.rank ≤ standard.outcome.rank ∧
      relaxed.summary.errors ≤ standard.summary.errors ∧
      relaxed.outcome.exitCode ≤ standard.outcome.exitCode := by
  intro relaxed standard ofArtifacts
  have hofArtifacts : ofArtifacts = outputFindings repo catalog .standard :=
    diagnostics_checkArtifacts_empty .standard
  refine ⟨?_, ⟨documentFindings repo catalog, ?_, ?_⟩, ?_, rank_outcome_relaxed_le,
    errors_relaxed_le, Outcome.exitCode_le_exitCode_of_rank_le rank_outcome_relaxed_le⟩
  · rw [artifacts_lint, artifacts_lint]
  · rw [diagnostics_lint, findings_eq, hofArtifacts]
  · rw [diagnostics_lint, findings_relaxed, hofArtifacts]
  · rw [hofArtifacts]
    intro d hd hcode
    exact severity_of_mem_outputFindings hd hcode

/-- One artifact lacks a required heading and another has an extra one, as the template has. -/
theorem lint_relaxed_of_standard_missing_extra :
    let schema : Schema := ⟨["## A"], [], by constructor <;> decide⟩
    let entry : Catalog.Entry := ⟨⟨"plan", by decide⟩, "plan.md", .ofString "t.md", none, schema⟩
    let catalog : Catalog := ⟨.ofString "out", .ofString "standards.md", [entry]⟩
    let repo : Repository :=
      { root := .ofString "."
        isPresent := fun _ => true
        read := fun path => if path = .ofString "out/plan.md" then .ok "" else .ok "## A\n## X"
        files := fun _ => .ok [.ofString "out/plan.md", .ofString "out/x-plan.md"] }
    let relaxed := lint repo catalog .relaxed
    let standard := lint repo catalog .standard
    let ofArtifacts := (checkArtifacts repo catalog .standard .empty).1.diagnostics
    let d := ((Diagnostic.error .structuralMissing
      "Artifact out/plan.md is missing required H2 headings: ## A").atFile "out/plan.md").withHint
        "copy the missing sections from t.md"
    ofArtifacts.map (·.code) = [.structuralMissing, .structuralExtra] ∧ d ∈ ofArtifacts ∧
      d.code = .structuralMissing ∧ d.severity = .error ∧
      (∃ ofDocuments, standard.diagnostics = ofDocuments ++ ofArtifacts ∧
        relaxed.diagnostics = ofDocuments ++ ofArtifacts.filterMap relaxed?) ∧
      relaxed.outcome.rank ≤ standard.outcome.rank := by
  intro schema entry catalog repo relaxed standard ofArtifacts d
  have hcodes : ofArtifacts.map (·.code) = [.structuralMissing, .structuralExtra] := by
    decide +kernel
  have hd : d ∈ ofArtifacts := by decide +kernel
  obtain ⟨-, hdiagnostics, hseverity, houtcome, -⟩ := lint_relaxed_of_standard repo catalog
  exact ⟨hcodes, hd, rfl, hseverity d hd rfl, hdiagnostics, houtcome⟩

end OutlineLint.Lint

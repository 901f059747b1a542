import OutlineLint.Proofs.Lint.Places

/-!
# Runs that look at no artifact

That there are no artifacts is reported if no listed file belongs to the catalog (`notesAbsence_iff`).
A file that belongs to it and has gone since the listing is passed over without a word. So a run
that looks at no artifact reports that there is none, or all files that belong to the catalog have
gone, and then it may pass (`artifacts_lint_eq_nil_iff`).
-/

namespace OutlineLint.Lint

/-- The report warns that there are no artifacts. -/
def NotesAbsence (report : Report) : Prop :=
  ∃ d ∈ report.diagnostics, d.code = .artifactsAbsent ∧ d.severity = .warning

/-- Some of the listed files belong to the catalog, but none of these is there any more. -/
def AllGone (repo : Repository) (catalog : Catalog) : Prop :=
  ∃ files, repo.files catalog.outputRoot = .ok files ∧ catalog.matched files ≠ [] ∧
    ∀ found ∈ catalog.matched files, repo.isPresent found.1 = false

variable {repo : Repository} {catalog : Catalog} {strictness : Strictness} {files : List Path}

lemma noArtifacts_mem_findings_of_noneMatched (strictness : Strictness)
    (h : NoneMatched repo catalog) :
    noArtifacts catalog.outputRoot ∈ findings repo catalog strictness :=
  List.mem_append_right _ (mem_outputFindings_iff.mpr (.inr (.inl ⟨h, rfl⟩)))

/-- Nothing else is reported with the code of absent artifacts. -/
lemma notesAbsence_iff : NotesAbsence (lint repo catalog strictness) ↔ NoneMatched repo catalog := by
  rw [NotesAbsence, diagnostics_lint]
  constructor
  · rintro ⟨d, hd, hcode, -⟩
    rcases exists_place_or_of_mem_findings hd with ⟨shown, -, hconcerns⟩ | ⟨-, hnone⟩
    · exact absurd hcode hconcerns.code_ne
    · exact hnone
  · intro hnone
    exact ⟨_, noArtifacts_mem_findings_of_noneMatched strictness hnone, rfl, rfl⟩

lemma examined_eq_nil_iff (hfiles : repo.files catalog.outputRoot = .ok files) :
    examined repo catalog = [] ↔
      ∀ found ∈ catalog.matched files, repo.isPresent found.1 = false := by
  simp only [examined, hfiles, shown, List.map_eq_nil_iff, List.filter_eq_nil_iff,
    Bool.not_eq_true]

/-- Nothing is looked at if nothing belongs to the catalog or all that does has gone. -/
lemma examined_eq_nil_iff_noneMatched_or_allGone
    (hfiles : repo.files catalog.outputRoot = .ok files) :
    examined repo catalog = [] ↔ NoneMatched repo catalog ∨ AllGone repo catalog := by
  rw [examined_eq_nil_iff hfiles, NoneMatched, AllGone]
  simp only [hfiles, Except.ok.injEq, exists_eq_left']
  by_cases hmatched : catalog.matched files = []
  · simp [hmatched]
  · simp only [hmatched, false_or, ne_eq, not_false_eq_true, true_and]

/-- A run that passes has listed files of which some belong to the catalog. -/
lemma exists_files_of_findings_eq_nil (h : findings repo catalog strictness = []) :
    (∃ files, repo.files catalog.outputRoot = .ok files) ∧ ¬ NoneMatched repo catalog := by
  constructor
  · cases hfiles : repo.files catalog.outputRoot with
    | ok files => exact ⟨files, rfl⟩
    | error error =>
      have hmem : scanFailed catalog.outputRoot error ∈ findings repo catalog strictness :=
        List.mem_append_right _ (mem_outputFindings_iff.mpr (.inl ⟨error, hfiles, rfl⟩))
      simp [h] at hmem
  · intro hnone
    have hmem := noArtifacts_mem_findings_of_noneMatched strictness hnone
    simp [h] at hmem

/-- If the files can be listed, a run looks at no artifact exactly when it reports that there is none
or all files that belong to the catalog have gone. A run that passes looks at no artifact exactly in
the second case. -/
theorem artifacts_lint_eq_nil_iff (repo : Repository) (catalog : Catalog)
    (strictness : Strictness) :
    ((∃ files, repo.files catalog.outputRoot = .ok files) →
      ((lint repo catalog strictness).artifacts = [] ↔
        NotesAbsence (lint repo catalog strictness) ∨ AllGone repo catalog)) ∧
    ((lint repo catalog strictness).outcome = .pass →
      ((lint repo catalog strictness).artifacts = [] ↔ AllGone repo catalog)) := by
  rw [artifacts_lint, notesAbsence_iff, outcome_lint_eq_pass_iff]
  constructor
  · rintro ⟨files, hfiles⟩
    exact examined_eq_nil_iff_noneMatched_or_allGone hfiles
  · intro hpass
    obtain ⟨⟨files, hfiles⟩, hmatched⟩ := exists_files_of_findings_eq_nil hpass
    rw [examined_eq_nil_iff_noneMatched_or_allGone hfiles, or_iff_right hmatched]

/-- One of two artifacts has gone, and the run passes: it has looked at the other one. -/
theorem artifacts_lint_eq_nil_iff_one_left :
    let schema : Schema := ⟨["## A"], [], by constructor <;> decide⟩
    let entry : Catalog.Entry := ⟨⟨"plan", by decide⟩, "plan.md", .ofString "t.md", none, schema⟩
    let catalog : Catalog := ⟨.ofString "out", .ofString "standards.md", [entry]⟩
    let files := [Path.ofString "out/plan.md", Path.ofString "out/x-plan.md"]
    let repo : Repository :=
      { root := .ofString "."
        isPresent := fun path => path ≠ .ofString "out/plan.md"
        read := fun _ => .ok "## A\ntemplate"
        files := fun _ => .ok files }
    repo.files catalog.outputRoot = .ok files ∧ (lint repo catalog .standard).outcome = .pass ∧
      ¬ NotesAbsence (lint repo catalog .standard) ∧ (lint repo catalog .standard).artifacts ≠ [] := by
  intro schema entry catalog files repo
  have hfiles : repo.files catalog.outputRoot = .ok files := rfl
  have hpass : (lint repo catalog .standard).outcome = .pass := by decide +kernel
  have hleft : ¬ AllGone repo catalog := by
    rintro ⟨files', hfiles', -, hgone⟩
    obtain rfl := Except.ok.inj (hfiles.symm.trans hfiles')
    have habsent := hgone (.ofString "out/x-plan.md", entry) (by decide +kernel)
    revert habsent
    decide
  obtain ⟨hlisted, hpassed⟩ := artifacts_lint_eq_nil_iff repo catalog .standard
  have hlooked : (lint repo catalog .standard).artifacts ≠ [] := fun hnil =>
    hleft ((hpassed hpass).mp hnil)
  exact ⟨hfiles, hpass, fun hnotes => hlooked ((hlisted ⟨files, hfiles⟩).mpr (.inl hnotes)), hlooked⟩

/-- The only artifact has gone: the run looks at none, reports nothing and passes. -/
theorem pass_of_allGone :
    let schema : Schema := ⟨["## A"], [], by constructor <;> decide⟩
    let entry : Catalog.Entry := ⟨⟨"plan", by decide⟩, "plan.md", .ofString "t.md", none, schema⟩
    let catalog : Catalog := ⟨.ofString "out", .ofString "standards.md", [entry]⟩
    let repo : Repository :=
      { root := .ofString "."
        isPresent := fun path => path ≠ .ofString "out/plan.md"
        read := fun _ => .ok "## A\ntemplate"
        files := fun _ => .ok [.ofString "out/plan.md"] }
    (∃ files, repo.files catalog.outputRoot = .ok files) ∧
      (lint repo catalog .standard).artifacts = [] ∧
      ¬ NotesAbsence (lint repo catalog .standard) ∧
      (lint repo catalog .standard).outcome = .pass := by
  intro schema entry catalog repo
  have hdiagnostics : (lint repo catalog .standard).diagnostics = [] := by decide +kernel
  refine ⟨⟨_, rfl⟩, by decide +kernel, ?_, by decide +kernel⟩
  rintro ⟨d, hd, -⟩
  rw [hdiagnostics] at hd
  contradiction

end OutlineLint.Lint

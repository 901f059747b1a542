import OutlineLint.Proofs.Lint.Places

/-!
# The shape of diagnostics

Wherever a run reports something, the code of the diagnostic decides how severe it is, but for
missing headings, which are a warning in an artifact under the relaxed strictness, and missing
files, which are a warning if the standards document is meant (`SeverityFits`). Only a template that
is not there has another title than that of its code (`TitleFits`). Every diagnostic is about a file
that the catalog names or an artifact, except that there are no artifacts, which is said last
(`shaped_lint`).
-/

namespace OutlineLint.Lint

variable {repo : Repository} {catalog : Catalog} {strictness : Strictness} {entry : Catalog.Entry}
  {d : Diagnostic}

/-! ### Severities and titles -/

/-- The diagnostic is as severe as its code demands. -/
def SeverityFits (catalog : Catalog) (strictness : Strictness) (d : Diagnostic) : Prop :=
  match d.code with
  | .structuralOrder | .referenceMissing | .skeletonEmbedded => d.severity = .error
  | .structuralExtra | .structuralMisplacedOptional | .standardsDriftHeuristic
  | .artifactsAbsent => d.severity = .warning
  | .structuralMissing => d.severity = .warning → strictness = .relaxed
  | .resourceMissing => d.severity = .warning → d.path = some catalog.standardsDoc.display

/-- A missing file may always be an error. -/
lemma SeverityFits.of_error (hcode : d.code = .resourceMissing) (hseverity : d.severity = .error) :
    SeverityFits catalog strictness d := by
  simp [SeverityFits, hcode, hseverity]

/-- The diagnostic has the title of its code, unless it is about a template that is not there. -/
def TitleFits (repo : Repository) (catalog : Catalog) (d : Diagnostic) : Prop :=
  d.title ≠ d.code.title → d.code = .resourceMissing ∧
    ∃ entry ∈ catalog.entries, repo.isPresent entry.template = false ∧
      d.path = some entry.template.display

/-- Severity and title of the diagnostic are as they have to be. -/
structure Regular (repo : Repository) (catalog : Catalog) (strictness : Strictness)
    (d : Diagnostic) : Prop where
  severity : SeverityFits catalog strictness d
  title : TitleFits repo catalog d

lemma Regular.of_title_eq (htitle : d.title = d.code.title)
    (hseverity : SeverityFits catalog strictness d) : Regular repo catalog strictness d :=
  ⟨hseverity, fun hne => absurd htitle hne⟩

/-! ### Checks -/

/-- A deviation is as severe as its code demands, in a template as in an artifact. -/
lemma regular_of_diagnostic? {path template : String} {role : Role} {deviation : Deviation}
    (hrole : role = .template ∨ role = .artifact strictness)
    (h : Check.diagnostic? path template role deviation = some d) :
    Regular repo catalog strictness d := by
  obtain ⟨severity, hseverity, rfl⟩ := Option.map_eq_some_iff.mp h
  refine .of_title_eq rfl ?_
  cases deviation with
  | missing headings =>
    rintro rfl
    rcases hrole with rfl | rfl
    · cases hseverity
    · cases strictness with
      | relaxed => rfl
      | standard => cases hseverity
  | outOfOrder before after position => exact (Option.some.inj hseverity).symm
  | extra headings =>
    rcases hrole with rfl | rfl
    · exact (Option.some.inj hseverity).symm
    · cases strictness with
      | relaxed => cases hseverity
      | standard => exact (Option.some.inj hseverity).symm
  | optionalMisplaced heading anchor => exact (Option.some.inj hseverity).symm

lemma regular_of_mem_template {text : String} (h : d ∈ Check.template entry text) :
    Regular repo catalog strictness d := by
  obtain ⟨deviation, -, hdiagnostic⟩ := List.mem_filterMap.mp h
  exact regular_of_diagnostic? (.inl rfl) hdiagnostic

lemma regular_of_mem_artifact {path : Path} {text : String}
    (h : d ∈ Check.artifact entry strictness path text) : Regular repo catalog strictness d := by
  obtain ⟨deviation, -, hdiagnostic⟩ := List.mem_filterMap.mp h
  exact regular_of_diagnostic? (.inr rfl) hdiagnostic

lemma regular_of_agentLink? {agent template : Path} {text : String}
    (h : d ∈ (Check.agentLink? agent text template).toList) :
    Regular repo catalog strictness d := by
  rw [Option.mem_toList, Check.agentLink?] at h
  split at h
  · contradiction
  · obtain rfl := Option.some.inj h
    exact .of_title_eq rfl rfl

lemma regular_of_embeddedSkeleton? {agent : Path} {text : String}
    (h : d ∈ (Check.embeddedSkeleton? agent text entry).toList) :
    Regular repo catalog strictness d := by
  obtain ⟨count, -, rfl⟩ := Option.map_eq_some_iff.mp (Option.mem_toList.mp h)
  exact .of_title_eq rfl rfl

lemma regular_of_standards? {text? : Option String}
    (h : d ∈ (Check.standards? catalog.standardsDoc text?).toList) :
    Regular repo catalog strictness d := by
  rw [Option.mem_toList] at h
  cases text? with
  | none =>
    obtain rfl := Option.some.inj h
    exact .of_title_eq rfl fun _ => rfl
  | some text =>
    rw [Check.standards?] at h
    split at h
    · contradiction
    · obtain rfl := Option.some.inj h
      exact .of_title_eq rfl rfl

/-! ### Steps -/

/-- A template that is not there has a title of its own. -/
lemma regular_missing_template (hentry : entry ∈ catalog.entries)
    (habsent : repo.isPresent entry.template = false) :
    Regular repo catalog strictness (missing .template entry.template) where
  severity := .of_error rfl rfl
  title _ := ⟨rfl, entry, hentry, habsent, rfl⟩

/-- No other file that is not there has. -/
lemma regular_missing {resource : Resource} {path : Path} (h : resource ≠ .template) :
    Regular repo catalog strictness (missing resource path) := by
  cases resource with
  | template => contradiction
  | agent => exact .of_title_eq rfl (.of_error rfl rfl)
  | artifact => exact .of_title_eq rfl (.of_error rfl rfl)

lemma regular_of_mem_fileFindings {resource : Resource} {path : Path}
    {check : String → List Diagnostic}
    (hmissing : repo.isPresent path = false →
      Regular repo catalog strictness (missing resource path))
    (hcheck : ∀ text, ∀ d ∈ check text, Regular repo catalog strictness d)
    (h : d ∈ fileFindings repo resource path check) : Regular repo catalog strictness d := by
  rcases of_mem_fileFindings h with ⟨habsent, rfl⟩ | ⟨error, rfl⟩ | ⟨text, hmem⟩
  · exact hmissing habsent
  · exact .of_title_eq rfl (.of_error rfl rfl)
  · exact hcheck text d hmem

lemma regular_of_mem_templateFindings (hentry : entry ∈ catalog.entries)
    (h : d ∈ templateFindings repo entry) : Regular repo catalog strictness d := by
  exact regular_of_mem_fileFindings (fun habsent => regular_missing_template hentry habsent)
    (fun _ _ => regular_of_mem_template) h

lemma regular_of_mem_agentFindings (h : d ∈ agentFindings repo entry) :
    Regular repo catalog strictness d := by
  rw [agentFindings] at h
  split at h
  · contradiction
  · exact regular_of_mem_fileFindings (fun _ => regular_missing (by decide))
      (fun _ _ => regular_of_agentLink?) h

lemma regular_of_mem_skeletonFindings {texts : AgentTexts}
    (h : d ∈ skeletonFindings texts entry) : Regular repo catalog strictness d := by
  rw [skeletonFindings] at h
  split at h
  · exact regular_of_embeddedSkeleton? h
  · contradiction

lemma regular_of_mem_standardsFindings (h : d ∈ standardsFindings repo catalog.standardsDoc) :
    Regular repo catalog strictness d := by
  rw [standardsFindings] at h
  split at h
  · split at h
    · exact regular_of_standards? h
    · obtain rfl := List.mem_singleton.mp h
      exact .of_title_eq rfl fun _ => rfl
  · exact regular_of_standards? h

lemma regular_of_mem_outputFindings (h : d ∈ outputFindings repo catalog strictness) :
    Regular repo catalog strictness d := by
  rcases mem_outputFindings_iff.mp h with
    ⟨error, -, rfl⟩ | ⟨-, rfl⟩ | ⟨files, -, found, -, hmem⟩
  · exact .of_title_eq rfl (.of_error rfl rfl)
  · exact .of_title_eq rfl rfl
  · rw [artifactFindings] at hmem
    split at hmem
    · exact regular_of_mem_fileFindings (fun _ => regular_missing (by decide))
        (fun _ _ => regular_of_mem_artifact) hmem
    · contradiction

/-! ### Runs -/

lemma regular_of_mem_findings (h : d ∈ findings repo catalog strictness) :
    Regular repo catalog strictness d := by
  simp only [findings, List.mem_append, List.mem_flatMap] at h
  rcases h with (((⟨entry, hentry, hd⟩ | ⟨entry, -, hd⟩) | ⟨entry, -, hd⟩) | hd) | hd
  · exact regular_of_mem_templateFindings hentry hd
  · exact regular_of_mem_agentFindings hd
  · exact regular_of_mem_skeletonFindings hd
  · exact regular_of_mem_standardsFindings hd
  · exact regular_of_mem_outputFindings hd

/-- If no file belongs to the catalog, the last step says so and no more. -/
lemma outputFindings_eq_of_noneMatched (h : NoneMatched repo catalog) :
    outputFindings repo catalog strictness = [noArtifacts catalog.outputRoot] := by
  obtain ⟨files, hfiles, hmatched⟩ := h
  simp only [outputFindings, hfiles, hmatched]

lemma examined_eq_nil_of_noneMatched (h : NoneMatched repo catalog) :
    examined repo catalog = [] := by
  obtain ⟨files, hfiles, hmatched⟩ := h
  simp only [examined, hfiles, hmatched, shown, List.filter_nil, List.map_nil]

lemma code_ne_of_mem_documentFindings (h : d ∈ documentFindings repo catalog) :
    d.code ≠ .artifactsAbsent := by
  obtain ⟨shown, -, hconcerns⟩ := exists_place_of_mem_documentFindings [] h
  exact hconcerns.code_ne

/-- What holds of all diagnostics of a run. -/
structure Shaped (repo : Repository) (catalog : Catalog) (strictness : Strictness)
    (report : Report) : Prop where
  /-- All but one kind of diagnostic are about a file as a whole. -/
  located : ∀ d ∈ report.diagnostics, d.code ≠ .artifactsAbsent →
    ∃ shown, Place catalog report.artifacts shown ∧ d.path = some shown ∧ d.line = some 1
  /-- That there are no artifacts is about no file, is said of a report without any, and last. -/
  absence : ∀ d ∈ report.diagnostics, d.code = .artifactsAbsent →
    d.path = none ∧ d.line = none ∧ report.artifacts = [] ∧
      ∃ earlier, report.diagnostics = earlier ++ [d] ∧ ∀ e ∈ earlier, e.code ≠ .artifactsAbsent
  severity : ∀ d ∈ report.diagnostics, SeverityFits catalog strictness d
  title : ∀ d ∈ report.diagnostics, TitleFits repo catalog d

/-- Every diagnostic of a run is about a file that the catalog names or an artifact of the report, is
as severe as its code demands and has the title of its code unless it is about a template that is not
there. Only that there are no artifacts is about no file; this is said at most once, at the end of a
report without artifacts. -/
theorem shaped_lint (repo : Repository) (catalog : Catalog) (strictness : Strictness) :
    Shaped repo catalog strictness (lint repo catalog strictness) where
  located d hd hcode := by
    rw [diagnostics_lint] at hd
    rw [artifacts_lint]
    rcases exists_place_or_of_mem_findings hd with ⟨shown, hplace, hconcerns⟩ | ⟨rfl, -⟩
    · exact ⟨shown, hplace, hconcerns.path_eq, hconcerns.line_eq⟩
    · exact absurd rfl hcode
  absence d hd hcode := by
    rw [diagnostics_lint] at hd
    rw [artifacts_lint, diagnostics_lint]
    rcases exists_place_or_of_mem_findings hd with ⟨shown, -, hconcerns⟩ | ⟨rfl, hnone⟩
    · exact absurd hcode hconcerns.code_ne
    · -- The last step said so, and no other step does.
      refine ⟨rfl, rfl, examined_eq_nil_of_noneMatched hnone, documentFindings repo catalog, ?_,
        fun e he => code_ne_of_mem_documentFindings he⟩
      rw [findings_eq, outputFindings_eq_of_noneMatched hnone]
  severity d hd := by
    rw [diagnostics_lint] at hd
    exact (regular_of_mem_findings hd).severity
  title d hd := by
    rw [diagnostics_lint] at hd
    exact (regular_of_mem_findings hd).title

/-- Nothing is there: the template is missed under another title than the standards document, which
is only worth a warning, and that there are no artifacts comes last. -/
theorem shaped_lint_nothing_there :
    let schema : Schema := ⟨["## A"], [], by constructor <;> decide⟩
    let entry : Catalog.Entry := ⟨⟨"plan", by decide⟩, "plan.md", .ofString "t.md", none, schema⟩
    let catalog : Catalog := ⟨.ofString "out", .ofString "standards.md", [entry]⟩
    let repo : Repository :=
      { root := .ofString "."
        isPresent := fun _ => false
        read := fun path => .error (.io .readText path "not found")
        files := fun _ => .ok [] }
    let report := lint repo catalog .standard
    report.diagnostics.map (·.code) = [.resourceMissing, .resourceMissing, .artifactsAbsent] ∧
      report.diagnostics.map (·.severity) = [.error, .warning, .warning] ∧
      report.diagnostics.map (·.title) =
        [Diagnostic.driftTitle, Diagnostic.missingTitle, Diagnostic.driftTitle] ∧
      report.diagnostics.map (·.path) = [some "t.md", some "standards.md", none] ∧
      Shaped repo catalog .standard report := by
  intro schema entry catalog repo report
  exact ⟨by decide +kernel, by decide +kernel, by decide +kernel, by decide +kernel,
    shaped_lint repo catalog .standard⟩

end OutlineLint.Lint

import OutlineLint.Proofs.Check.Errors
import OutlineLint.Proofs.Lint.Findings

/-!
# When a run fails

A run fails if and only if there is a fault in the repository (`fails_iff_fault`): in a template, in
an agent document or in an artifact, or the artifacts cannot be listed. Neither the standards
document, nor extra or misplaced optional headings, nor an output directory without artifacts ever
make a run fail.
-/

namespace OutlineLint.Lint

open Check (Occurs HoldsThree)
open Comparison (Complete InOrder)

variable {repo : Repository} {catalog : Catalog} {strictness : Strictness} {entry : Catalog.Entry}

/-! ### Faults -/

/-- The template of an entry has a fault. -/
inductive TemplateFault (repo : Repository) (entry : Catalog.Entry) : Prop
  | absent (habsent : repo.isPresent entry.template = false)
  | unreadable {error : AccessError} (hread : repo.read entry.template = .error error)
  | incomplete {text : String} (hread : repo.read entry.template = .ok text)
      (hcomplete : ¬ Complete entry.schema (Outline.headings text))
  | unordered {text : String} (hread : repo.read entry.template = .ok text)
      (horder : ¬ InOrder entry.schema (Outline.headings text))

/-- The document of the agent of an entry has a fault. -/
inductive AgentFault (repo : Repository) (agent : Path) (entry : Catalog.Entry) : Prop
  | absent (habsent : repo.isPresent agent = false)
  | unreadable {error : AccessError} (hread : repo.read agent = .error error)
  | unlinked {text : String} (hread : repo.read agent = .ok text)
      (hlink : ¬ Occurs (agent.parent.relativeTo entry.template) text)
  | copied {text block : String} (hread : repo.read agent = .ok text)
      (hblock : block ∈ Outline.blocks text) (hholds : HoldsThree entry.schema block)

/-- A file that belongs to an entry has a fault. A file that is not there has none. -/
inductive ArtifactFault (repo : Repository) (strictness : Strictness) (path : Path)
    (entry : Catalog.Entry) : Prop
  | unreadable {error : AccessError} (hpresent : repo.isPresent path = true)
      (hread : repo.read path = .error error)
  | unordered {text : String} (hpresent : repo.isPresent path = true)
      (hread : repo.read path = .ok text)
      (hcomplete : Complete entry.schema (Outline.headings text))
      (horder : ¬ InOrder entry.schema (Outline.headings text))
  | incomplete {text : String} (hpresent : repo.isPresent path = true)
      (hread : repo.read path = .ok text) (hstandard : strictness = .standard)
      (hcomplete : ¬ Complete entry.schema (Outline.headings text))

/-- There is a fault in what a run looks at. -/
inductive Fault (repo : Repository) (catalog : Catalog) (strictness : Strictness) : Prop
  | template {entry : Catalog.Entry} (hentry : entry ∈ catalog.entries)
      (hfault : TemplateFault repo entry)
  | agent {entry : Catalog.Entry} {agent : Path} (hentry : entry ∈ catalog.entries)
      (hagent : entry.agent = some agent) (hfault : AgentFault repo agent entry)
  | files {error : AccessError} (hfiles : repo.files catalog.outputRoot = .error error)
  | artifact {files : List Path} {path : Path} {entry : Catalog.Entry}
      (hfiles : repo.files catalog.outputRoot = .ok files)
      (hmatched : (path, entry) ∈ catalog.matched files)
      (hfault : ArtifactFault repo strictness path entry)

/-! ### Errors of each step -/

/-- A file that cannot be loaded is an error; otherwise its text decides. -/
lemma hasError_fileFindings_iff {resource : Resource} {path : Path}
    {check : String → List Diagnostic} :
    HasError (fileFindings repo resource path check) ↔
      repo.isPresent path = false ∨ (∃ error, repo.read path = .error error) ∨
        ∃ text, repo.read path = .ok text ∧ HasError (check text) := by
  rw [fileFindings]
  have hload := LoadRule.of_load repo resource path
  generalize load repo resource path = loaded at hload
  cases hload with
  | absent habsent => simp [habsent]
  | unreadable hpresent hread => simp [hread]
  | read hpresent hread => simp [hpresent, hread]

lemma hasError_templateFindings_iff :
    HasError (templateFindings repo entry) ↔ TemplateFault repo entry := by
  rw [templateFindings_eq, hasError_fileFindings_iff]
  constructor
  · rintro (habsent | ⟨error, hread⟩ | ⟨text, hread, herror⟩)
    · exact .absent habsent
    · exact .unreadable hread
    · rcases Check.hasError_template_iff.mp herror with hcomplete | horder
      · exact .incomplete hread hcomplete
      · exact .unordered hread horder
  · rintro (habsent | hread | ⟨hread, hcomplete⟩ | ⟨hread, horder⟩)
    · exact .inl habsent
    · exact .inr (.inl ⟨_, hread⟩)
    · exact .inr (.inr ⟨_, hread, Check.hasError_template_iff.mpr (.inl hcomplete)⟩)
    · exact .inr (.inr ⟨_, hread, Check.hasError_template_iff.mpr (.inr horder)⟩)

lemma hasError_agentFindings_iff :
    HasError (agentFindings repo entry) ↔
      ∃ agent, entry.agent = some agent ∧ (repo.isPresent agent = false ∨
        (∃ error, repo.read agent = .error error) ∨
        ∃ text, repo.read agent = .ok text ∧
          ¬ Occurs (agent.parent.relativeTo entry.template) text) := by
  rw [agentFindings]
  cases entry.agent with
  | none => simp
  | some agent =>
    simp only [hasError_fileFindings_iff, Check.hasError_agentLink?_iff, Option.some.injEq,
      exists_eq_left']

lemma hasError_copyFindings_iff :
    HasError (copyFindings repo entry) ↔
      ∃ agent, entry.agent = some agent ∧ repo.isPresent agent = true ∧
        ∃ text, repo.read agent = .ok text ∧
          ∃ block ∈ Outline.blocks text, HoldsThree entry.schema block := by
  rw [copyFindings, agentText?]
  cases entry.agent with
  | none => simp
  | some agent =>
    have hload := LoadRule.of_load repo .agent agent
    simp only [Option.bind_some, Option.some.injEq, exists_eq_left']
    generalize load repo .agent agent = loaded at hload
    cases hload with
    | absent habsent => simp [Except.toOption, habsent]
    | unreadable hpresent hread => simp [Except.toOption, hread]
    | read hpresent hread =>
      simpa [Except.toOption, hpresent, hread] using Check.hasError_embeddedSkeleton?_iff

/-- The link and the copies in an agent document are looked at in different steps. -/
lemma hasError_agentFindings_or_copyFindings_iff :
    HasError (agentFindings repo entry) ∨ HasError (copyFindings repo entry) ↔
      ∃ agent, entry.agent = some agent ∧ AgentFault repo agent entry := by
  rw [hasError_agentFindings_iff, hasError_copyFindings_iff]
  constructor
  · rintro (⟨agent, hagent, habsent | ⟨error, hread⟩ | ⟨text, hread, hlink⟩⟩ |
      ⟨agent, hagent, -, text, hread, block, hblock, hholds⟩)
    · exact ⟨agent, hagent, .absent habsent⟩
    · exact ⟨agent, hagent, .unreadable hread⟩
    · exact ⟨agent, hagent, .unlinked hread hlink⟩
    · exact ⟨agent, hagent, .copied hread hblock hholds⟩
  · rintro ⟨agent, hagent, habsent | hread | ⟨hread, hlink⟩ | ⟨hread, hblock, hholds⟩⟩
    · exact .inl ⟨agent, hagent, .inl habsent⟩
    · exact .inl ⟨agent, hagent, .inr (.inl ⟨_, hread⟩)⟩
    · exact .inl ⟨agent, hagent, .inr (.inr ⟨_, hread, hlink⟩)⟩
    · -- a document that is not there has a fault, but not that of a copy
      by_cases hpresent : repo.isPresent agent = true
      · exact .inr ⟨agent, hagent, hpresent, _, hread, _, hblock, hholds⟩
      · exact .inl ⟨agent, hagent, .inl (Bool.not_eq_true _ ▸ hpresent)⟩

lemma not_hasError_standardsFindings {path : Path} : ¬ HasError (standardsFindings repo path) := by
  rw [standardsFindings]
  split
  · cases repo.read path with
    | ok text => exact Check.not_hasError_standards?
    | error error => simp
  · exact Check.not_hasError_standards?

lemma hasError_artifactFindings_iff {path : Path} :
    HasError (artifactFindings repo strictness (path, entry)) ↔
      ArtifactFault repo strictness path entry := by
  rw [artifactFindings]
  by_cases hpresent : repo.isPresent path = true
  · rw [if_pos hpresent, hasError_fileFindings_iff]
    constructor
    · rintro (habsent | ⟨error, hread⟩ | ⟨text, hread, herror⟩)
      · rw [hpresent] at habsent
        contradiction
      · exact .unreadable hpresent hread
      · rcases Check.hasError_artifact_iff.mp herror with
          ⟨hcomplete, horder⟩ | ⟨hstandard, hcomplete⟩
        · exact .unordered hpresent hread hcomplete horder
        · exact .incomplete hpresent hread hstandard hcomplete
    · rintro (⟨-, hread⟩ | ⟨-, hread, hcomplete, horder⟩ | ⟨-, hread, hstandard, hcomplete⟩)
      · exact .inr (.inl ⟨_, hread⟩)
      · exact .inr (.inr ⟨_, hread, Check.hasError_artifact_iff.mpr (.inl ⟨hcomplete, horder⟩)⟩)
      · exact .inr (.inr ⟨_, hread, Check.hasError_artifact_iff.mpr (.inr ⟨hstandard, hcomplete⟩)⟩)
  · rw [if_neg hpresent, HasError.nil_iff, false_iff]
    rintro (⟨hpresent', -⟩ | ⟨hpresent', -⟩ | ⟨hpresent', -⟩) <;> exact hpresent hpresent'

lemma hasError_outputFindings_iff :
    HasError (outputFindings repo catalog strictness) ↔
      (∃ error, repo.files catalog.outputRoot = .error error) ∨
        ∃ files, repo.files catalog.outputRoot = .ok files ∧
          ∃ found ∈ catalog.matched files, HasError (artifactFindings repo strictness found) := by
  rw [outputFindings]
  cases repo.files catalog.outputRoot with
  | error error => simp [scanFailed]
  | ok files =>
    cases hfound : catalog.matched files with
    | nil => simp [hfound, noArtifacts]
    | cons first rest =>
      simp only [hfound, HasError.flatMap_iff, reduceCtorEq, exists_false, false_or,
        Except.ok.injEq, exists_eq_left']

/-! ### The gate -/

/-- If the kinds are distinct, the errors of a run are the faults of what it looks at. -/
lemma hasError_findings_iff (hkinds : (catalog.entries.map (·.kind)).Nodup) :
    HasError (findings repo catalog strictness) ↔ Fault repo catalog strictness := by
  have hskeleton {entry : Catalog.Entry} (hentry : entry ∈ catalog.entries) :
      HasError (skeletonFindings (agentTexts repo catalog.entries) entry) ↔
        HasError (copyFindings repo entry) := by
    rw [skeletonFindings_agentTexts hkinds hentry]
  simp only [findings, HasError.append_iff, HasError.flatMap_iff, hasError_templateFindings_iff,
    not_hasError_standardsFindings, or_false, hasError_outputFindings_iff]
  constructor
  · rintro (((⟨entry, hentry, hfault⟩ | ⟨entry, hentry, herror⟩) | ⟨entry, hentry, herror⟩) |
      ⟨error, hfiles⟩ | ⟨files, hfiles, ⟨path, entry⟩, hmatched, herror⟩)
    · exact .template hentry hfault
    · obtain ⟨agent, hagent, hfault⟩ :=
        hasError_agentFindings_or_copyFindings_iff.mp (.inl herror)
      exact .agent hentry hagent hfault
    · obtain ⟨agent, hagent, hfault⟩ :=
        hasError_agentFindings_or_copyFindings_iff.mp (.inr ((hskeleton hentry).mp herror))
      exact .agent hentry hagent hfault
    · exact .files hfiles
    · exact .artifact hfiles hmatched (hasError_artifactFindings_iff.mp herror)
  · rintro (⟨hentry, hfault⟩ | ⟨hentry, hagent, hfault⟩ | hfiles | ⟨hfiles, hmatched, hfault⟩)
    · exact .inl (.inl (.inl ⟨_, hentry, hfault⟩))
    · rcases hasError_agentFindings_or_copyFindings_iff.mpr ⟨_, hagent, hfault⟩ with
        herror | herror
      · exact .inl (.inl (.inr ⟨_, hentry, herror⟩))
      · exact .inl (.inr ⟨_, hentry, (hskeleton hentry).mpr herror⟩)
    · exact .inr (.inl ⟨_, hfiles⟩)
    · exact .inr (.inr ⟨_, hfiles, _, hmatched, hasError_artifactFindings_iff.mpr hfault⟩)

/-- Where the standards document is does not matter to faults. -/
lemma Fault.with_standardsDoc (standardsDoc : Path) (h : Fault repo catalog strictness) :
    Fault repo { catalog with standardsDoc := standardsDoc } strictness := by
  cases h with
  | template hentry hfault => exact .template hentry hfault
  | agent hentry hagent hfault => exact .agent hentry hagent hfault
  | files hfiles => exact .files hfiles
  | artifact hfiles hmatched hfault => exact .artifact hfiles hmatched hfault

lemma fault_with_standardsDoc_iff (standardsDoc : Path) :
    Fault repo { catalog with standardsDoc := standardsDoc } strictness ↔
      Fault repo catalog strictness :=
  ⟨fun h => h.with_standardsDoc catalog.standardsDoc, fun h => h.with_standardsDoc standardsDoc⟩

lemma outcome_lint_eq_fail_iff (repo : Repository) (strictness : Strictness)
    (hkinds : (catalog.entries.map (·.kind)).Nodup) :
    (lint repo catalog strictness).outcome = .fail ↔ Fault repo catalog strictness := by
  rw [outcome_lint_eq_fail_iff_hasError, hasError_findings_iff hkinds]

/-- If the kinds are distinct, a run fails, and exits with 1, if and only if there is a fault in a
template, in an agent document, in the listing of the artifacts or in an artifact. Which standards
document it looks at has no part in this. -/
theorem fails_iff_fault (repo : Repository) (catalog : Catalog) (strictness : Strictness)
    (hkinds : (catalog.entries.map (·.kind)).Nodup) :
    ((lint repo catalog strictness).outcome = .fail ↔ Fault repo catalog strictness) ∧
    ((lint repo catalog strictness).outcome.exitCode = 1 ↔ Fault repo catalog strictness) ∧
    ∀ standardsDoc,
      (lint repo { catalog with standardsDoc := standardsDoc } strictness).outcome = .fail ↔
        Fault repo catalog strictness := by
  have hfail := outcome_lint_eq_fail_iff repo strictness hkinds
  refine ⟨hfail, Outcome.exitCode_eq_one_iff.trans hfail, fun standardsDoc => ?_⟩
  rw [← fault_with_standardsDoc_iff standardsDoc]
  exact outcome_lint_eq_fail_iff repo strictness hkinds

/-- An agent that is not the last one is held to its own template. -/
theorem fails_iff_fault_copied :
    let schema : Schema := ⟨["## A", "## B", "## C"], [], by constructor <;> decide⟩
    let entry (kind : ArtifactKind) (agent : String) : Catalog.Entry :=
      ⟨kind, "plan.md", .ofString "plan.template.md", some (.ofString agent), schema⟩
    let catalog : Catalog :=
      ⟨.ofString "out", .ofString "standards.md",
        [entry ⟨"plan", by decide⟩ "planner.md", entry ⟨"review", by decide⟩ "reviewer.md"]⟩
    let repo : Repository :=
      { root := .ofString "."
        isPresent := fun _ => true
        read := fun path =>
          if path = .ofString "planner.md" then .ok "plan.template.md\n```\n## C\n## A\n## B\n```"
          else .ok "## A\n## B\n## C\nplan.template.md"
        files := fun _ => .ok [] }
    (catalog.entries.map (·.kind)).Nodup ∧ (lint repo catalog .relaxed).outcome = .fail := by
  intro schema entry catalog repo
  have hkinds : (catalog.entries.map (·.kind)).Nodup := by decide
  have hread : repo.read (.ofString "planner.md") =
      .ok "plan.template.md\n```\n## C\n## A\n## B\n```" := by
    simp [repo]
  have hblock : "## C\n## A\n## B" ∈
      Outline.blocks "plan.template.md\n```\n## C\n## A\n## B\n```" := by
    decide
  have hholds : HoldsThree schema "## C\n## A\n## B" :=
    ⟨["## A", "## B", "## C"], .refl _, rfl, by decide⟩
  exact ⟨hkinds, (fails_iff_fault repo catalog .relaxed hkinds).1.mpr
    (.agent List.mem_cons_self rfl (.copied hread hblock hholds))⟩

end OutlineLint.Lint

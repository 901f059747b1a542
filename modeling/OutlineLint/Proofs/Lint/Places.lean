import OutlineLint.Proofs.Lint.Findings

/-!
# Where findings are

Each step of a run looks at one file after the other, and what it finds in a file concerns this file
and no other (`Concerns`). The only diagnostic that concerns no file is the one about an output
directory without artifacts (`exists_place_or_of_mem_findings`).
-/

namespace OutlineLint

/-! ### Diagnostics about a file -/

/-- The diagnostic is about the file that is shown so, as a whole. -/
structure Diagnostic.Concerns (d : Diagnostic) (shown : String) : Prop where
  path_eq : d.path = some shown
  line_eq : d.line = some 1
  code_ne : d.code ≠ .artifactsAbsent

/-- All diagnostics are about one file. -/
def AllConcern (ds : List Diagnostic) (shown : String) : Prop := ∀ d ∈ ds, d.Concerns shown

lemma Diagnostic.concerns_atFile {code : Code} (h : code ≠ .artifactsAbsent) (severity : Severity)
    (message shown : String) : ((ofCode code severity message).atFile shown).Concerns shown :=
  ⟨rfl, rfl, h⟩

lemma Diagnostic.Concerns.withTitle {d : Diagnostic} {shown : String} (h : d.Concerns shown)
    (title : String) : (d.withTitle title).Concerns shown := ⟨h.path_eq, h.line_eq, h.code_ne⟩

lemma Diagnostic.Concerns.withHint {d : Diagnostic} {shown : String} (h : d.Concerns shown)
    (hint : String) : (d.withHint hint).Concerns shown := ⟨h.path_eq, h.line_eq, h.code_ne⟩

namespace AllConcern

variable {d : Diagnostic} {shown : String}

lemma nil (shown : String) : AllConcern [] shown := by
  simp [AllConcern]

lemma singleton (h : d.Concerns shown) : AllConcern [d] shown := by
  simpa [AllConcern] using h

lemma toList {d? : Option Diagnostic} (h : ∀ d, d? = some d → d.Concerns shown) :
    AllConcern d?.toList shown := by
  intro d hd
  exact h d (Option.mem_toList.mp hd)

end AllConcern

/-! ### Checks -/

namespace Check

variable {entry : Catalog.Entry} {text : String}

lemma concerns_of_diagnostic? {path template : String} {role : Role} {deviation : Deviation}
    {d : Diagnostic} (h : diagnostic? path template role deviation = some d) :
    d.Concerns path := by
  obtain ⟨severity, -, rfl⟩ := Option.map_eq_some_iff.mp h
  have hcode : deviation.code ≠ .artifactsAbsent := by
    cases deviation <;> simp [Deviation.code]
  exact (Diagnostic.concerns_atFile hcode ..).withHint _

lemma allConcern_template : AllConcern (template entry text) entry.template.display := by
  intro d hd
  obtain ⟨deviation, -, hdiagnostic⟩ := List.mem_filterMap.mp hd
  exact concerns_of_diagnostic? hdiagnostic

lemma allConcern_artifact {strictness : Strictness} {path : Path} :
    AllConcern (artifact entry strictness path text) path.display := by
  intro d hd
  obtain ⟨deviation, -, hdiagnostic⟩ := List.mem_filterMap.mp hd
  exact concerns_of_diagnostic? hdiagnostic

lemma allConcern_agentLink? {agent template : Path} :
    AllConcern (agentLink? agent text template).toList agent.display := by
  refine AllConcern.toList fun d hd => ?_
  rw [agentLink?] at hd
  split at hd
  · contradiction
  · obtain rfl := Option.some.inj hd
    exact (Diagnostic.concerns_atFile (by decide) ..).withHint _

lemma allConcern_embeddedSkeleton? {agent : Path} :
    AllConcern (embeddedSkeleton? agent text entry).toList agent.display := by
  refine AllConcern.toList fun d hd => ?_
  obtain ⟨count, -, rfl⟩ := Option.map_eq_some_iff.mp hd
  exact (Diagnostic.concerns_atFile (by decide) ..).withHint _

lemma allConcern_standards? {path : Path} {text? : Option String} :
    AllConcern (standards? path text?).toList path.display := by
  refine AllConcern.toList fun d hd => ?_
  cases text? with
  | none =>
    obtain rfl := Option.some.inj hd
    exact Diagnostic.concerns_atFile (by decide) ..
  | some text =>
    rw [standards?] at hd
    split at hd
    · contradiction
    · obtain rfl := Option.some.inj hd
      exact (Diagnostic.concerns_atFile (by decide) ..).withHint _

end Check

/-! ### Steps -/

namespace Lint

variable {repo : Repository} {catalog : Catalog} {strictness : Strictness} {entry : Catalog.Entry}

lemma concerns_missing (resource : Resource) (path : Path) :
    (missing resource path).Concerns path.display := by
  cases resource with
  | template => exact (Diagnostic.concerns_atFile (by decide) ..).withTitle _
  | agent => exact Diagnostic.concerns_atFile (by decide) ..
  | artifact => exact Diagnostic.concerns_atFile (by decide) ..

lemma concerns_unreadable (resource : Resource) (path : Path) (error : AccessError) :
    (unreadable resource path error).Concerns path.display :=
  Diagnostic.concerns_atFile (by decide) ..

lemma concerns_scanFailed (outputRoot : Path) (error : AccessError) :
    (scanFailed outputRoot error).Concerns outputRoot.display :=
  Diagnostic.concerns_atFile (by decide) ..

lemma allConcern_fileFindings {resource : Resource} {path : Path}
    {check : String → List Diagnostic} (hcheck : ∀ text, AllConcern (check text) path.display) :
    AllConcern (fileFindings repo resource path check) path.display := by
  intro d hd
  rcases of_mem_fileFindings hd with ⟨-, rfl⟩ | ⟨error, rfl⟩ | ⟨text, hmem⟩
  · exact concerns_missing resource path
  · exact concerns_unreadable resource path error
  · exact hcheck text d hmem

lemma allConcern_templateFindings :
    AllConcern (templateFindings repo entry) entry.template.display :=
  allConcern_fileFindings fun _ => Check.allConcern_template

lemma allConcern_agentFindings {agent : Path} (hagent : entry.agent = some agent) :
    AllConcern (agentFindings repo entry) agent.display := by
  simp only [agentFindings, hagent]
  exact allConcern_fileFindings fun _ => Check.allConcern_agentLink?

lemma allConcern_skeletonFindings {texts : AgentTexts} {agent : Path}
    (hagent : entry.agent = some agent) :
    AllConcern (skeletonFindings texts entry) agent.display := by
  simp only [skeletonFindings, hagent]
  cases texts.lookup entry.kind with
  | none => exact .nil _
  | some text => exact Check.allConcern_embeddedSkeleton?

lemma allConcern_standardsFindings (path : Path) :
    AllConcern (standardsFindings repo path) path.display := by
  rw [standardsFindings]
  split
  · cases repo.read path with
    | ok text => exact Check.allConcern_standards?
    | error error => exact .singleton (Diagnostic.concerns_atFile (by decide) ..)
  · exact Check.allConcern_standards?

lemma allConcern_artifactFindings {found : Path × Catalog.Entry} :
    AllConcern (artifactFindings repo strictness found) found.1.display := by
  rw [artifactFindings]
  split
  · exact allConcern_fileFindings fun _ => Check.allConcern_artifact
  · exact .nil _

/-! ### Entries with an agent -/

/-- Nothing is found in the document of an agent if there is no agent. -/
lemma exists_agent_of_mem_agentFindings {d : Diagnostic} (h : d ∈ agentFindings repo entry) :
    ∃ agent, entry.agent = some agent := by
  rw [agentFindings] at h
  cases hagent : entry.agent with
  | none => simp [hagent] at h
  | some agent => exact ⟨agent, rfl⟩

lemma exists_agent_of_mem_skeletonFindings {texts : AgentTexts} {d : Diagnostic}
    (h : d ∈ skeletonFindings texts entry) : ∃ agent, entry.agent = some agent := by
  rw [skeletonFindings] at h
  cases hagent : entry.agent with
  | none => simp [hagent] at h
  | some agent => exact ⟨agent, rfl⟩

/-! ### Runs -/

/-- The files on which a run may report, as they are shown: those that the catalog names, and the
artifacts that the run has looked at. -/
inductive Place (catalog : Catalog) (artifacts : List String) : String → Prop
  | template {entry : Catalog.Entry} (hentry : entry ∈ catalog.entries) :
      Place catalog artifacts entry.template.display
  | agent {entry : Catalog.Entry} {agent : Path} (hentry : entry ∈ catalog.entries)
      (hagent : entry.agent = some agent) : Place catalog artifacts agent.display
  | standards : Place catalog artifacts catalog.standardsDoc.display
  | outputRoot : Place catalog artifacts catalog.outputRoot.display
  | artifact {shown : String} (hshown : shown ∈ artifacts) : Place catalog artifacts shown

/-- What is found before the last step is about a file that the catalog names. -/
lemma exists_place_of_mem_documentFindings {d : Diagnostic} (artifacts : List String)
    (h : d ∈ documentFindings repo catalog) :
    ∃ shown, Place catalog artifacts shown ∧ d.Concerns shown := by
  simp only [documentFindings, List.mem_append, List.mem_flatMap] at h
  rcases h with ((⟨entry, hentry, hd⟩ | ⟨entry, hentry, hd⟩) | ⟨entry, hentry, hd⟩) | hd
  · exact ⟨_, .template hentry, allConcern_templateFindings d hd⟩
  · obtain ⟨agent, hagent⟩ := exists_agent_of_mem_agentFindings hd
    exact ⟨_, .agent hentry hagent, allConcern_agentFindings hagent d hd⟩
  · obtain ⟨agent, hagent⟩ := exists_agent_of_mem_skeletonFindings hd
    exact ⟨_, .agent hentry hagent, allConcern_skeletonFindings hagent d hd⟩
  · exact ⟨_, .standards, allConcern_standardsFindings _ d hd⟩

/-- Something is found only in an artifact that is there, and then the run has looked at it. -/
lemma display_mem_examined {files : List Path} {found : Path × Catalog.Entry} {d : Diagnostic}
    (hfiles : repo.files catalog.outputRoot = .ok files) (hfound : found ∈ catalog.matched files)
    (hd : d ∈ artifactFindings repo strictness found) :
    found.1.display ∈ examined repo catalog := by
  rw [artifactFindings] at hd
  split at hd
  · next hpresent =>
    simp only [examined, hfiles]
    exact List.mem_map.mpr ⟨found, List.mem_filter.mpr ⟨hfound, hpresent⟩, rfl⟩
  · contradiction

/-- A diagnostic of a run is about a file, unless no file belongs to the catalog. -/
lemma exists_place_or_of_mem_findings {d : Diagnostic}
    (h : d ∈ findings repo catalog strictness) :
    (∃ shown, Place catalog (examined repo catalog) shown ∧ d.Concerns shown) ∨
      d = noArtifacts catalog.outputRoot ∧ NoneMatched repo catalog := by
  rw [findings_eq] at h
  rcases List.mem_append.mp h with hd | hd
  · exact .inl (exists_place_of_mem_documentFindings _ hd)
  · rcases mem_outputFindings_iff.mp hd with
      ⟨error, -, rfl⟩ | ⟨hnone, rfl⟩ | ⟨files, hfiles, found, hfound, hmem⟩
    · exact .inl ⟨_, .outputRoot, concerns_scanFailed _ error⟩
    · exact .inr ⟨rfl, hnone⟩
    · exact .inl ⟨_, .artifact (display_mem_examined hfiles hfound hmem),
        allConcern_artifactFindings d hmem⟩

end Lint

end OutlineLint

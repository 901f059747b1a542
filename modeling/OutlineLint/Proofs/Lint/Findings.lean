import OutlineLint.Lint
import OutlineLint.Proofs.Report.Draft

/-!
# The findings of a run

The steps of a run hand a draft on to one another. What they find depends on nothing in this draft,
so the diagnostics of a run are those of its steps in a row (`lint_eq`). Only the texts of agent
documents go from one step to another; if the kinds of the entries are distinct, an entry gets back
the text of its own agent (`lookup_agentTexts`).
-/

namespace OutlineLint.Lint

open Report (Draft)

variable {repo : Repository} {catalog : Catalog} {strictness : Strictness}

/-! ### Files -/

/-- The diagnostics of a file: what is found in its text, or that there is none. -/
def fileFindings (repo : Repository) (resource : Resource) (path : Path)
    (check : String → List Diagnostic) : List Diagnostic :=
  match load repo resource path with
  | .ok text => check text
  | .error d => [d]

/-- How an attempt to load a file ends. -/
inductive LoadRule (repo : Repository) (resource : Resource) (path : Path) :
    Except Diagnostic String → Prop
  | absent (habsent : repo.isPresent path = false) :
      LoadRule repo resource path (.error (missing resource path))
  | unreadable {error : AccessError} (hpresent : repo.isPresent path = true)
      (hread : repo.read path = .error error) :
      LoadRule repo resource path (.error (unreadable resource path error))
  | read {text : String} (hpresent : repo.isPresent path = true)
      (hread : repo.read path = .ok text) : LoadRule repo resource path (.ok text)

lemma LoadRule.of_load (repo : Repository) (resource : Resource) (path : Path) :
    LoadRule repo resource path (load repo resource path) := by
  rw [load]
  split
  · next hpresent =>
    cases hread : repo.read path with
    | ok text => exact .read hpresent hread
    | error error => exact .unreadable hpresent hread
  · next habsent => exact .absent (Bool.not_eq_true _ ▸ habsent)

lemma of_mem_fileFindings {resource : Resource} {path : Path} {check : String → List Diagnostic}
    {d : Diagnostic} (h : d ∈ fileFindings repo resource path check) :
    (repo.isPresent path = false ∧ d = missing resource path) ∨
      (∃ error, d = unreadable resource path error) ∨ ∃ text, d ∈ check text := by
  rw [fileFindings] at h
  have hload := LoadRule.of_load repo resource path
  generalize load repo resource path = loaded at h hload
  cases hload with
  | absent habsent => exact .inl ⟨habsent, List.mem_singleton.mp h⟩
  | unreadable hpresent hread => exact .inr (.inl ⟨_, List.mem_singleton.mp h⟩)
  | read hpresent hread => exact .inr (.inr ⟨_, h⟩)

@[simp] lemma severity_missing {resource : Resource} {path : Path} :
    (missing resource path).severity = .error := by
  cases resource <;> rfl

@[simp] lemma severity_unreadable {resource : Resource} {path : Path} {error : AccessError} :
    (unreadable resource path error).severity = .error := rfl

lemma templateFindings_eq (entry : Catalog.Entry) :
    templateFindings repo entry =
      fileFindings repo .template entry.template (Check.template entry) := rfl

/-! ### Agents -/

/-- The text of the agent document of an entry, if there is one that can be read. -/
def agentText? (repo : Repository) (entry : Catalog.Entry) : Option String :=
  entry.agent.bind fun agent => (load repo .agent agent).toOption

/-- The diagnostics of the agent document of an entry, but for copies of the template. -/
def agentFindings (repo : Repository) (entry : Catalog.Entry) : List Diagnostic :=
  match entry.agent with
  | none => []
  | some agent =>
    fileFindings repo .agent agent fun text =>
      (Check.agentLink? agent text entry.template).toList

/-- The text of the agent document of an entry, under its kind. -/
def ownText (repo : Repository) (entry : Catalog.Entry) : AgentTexts :=
  ((agentText? repo entry).map (entry.kind, ·)).toList

/-- The texts of the agent documents of all entries, the last first. -/
def agentTexts (repo : Repository) : List Catalog.Entry → AgentTexts
  | [] => []
  | entry :: rest => agentTexts repo rest ++ ownText repo entry

lemma loadAgent_eq (draft : Draft) (texts : AgentTexts) (entry : Catalog.Entry) :
    loadAgent repo (draft, texts) entry =
      (draft.extend (agentFindings repo entry), ownText repo entry ++ texts) := by
  rw [loadAgent, agentFindings, ownText, agentText?]
  cases entry.agent with
  | none => rfl
  | some agent =>
    simp only [fileFindings, Option.bind_some]
    cases load repo .agent agent with
    | ok text => rfl
    | error d => rfl

lemma foldl_loadAgent (draft : Draft) (texts : AgentTexts) (entries : List Catalog.Entry) :
    entries.foldl (loadAgent repo) (draft, texts) =
      (draft.extend (entries.flatMap (agentFindings repo)), agentTexts repo entries ++ texts) := by
  induction entries generalizing draft texts with
  | nil => rfl
  | cons entry rest ih =>
    rw [List.foldl_cons, loadAgent_eq, ih, List.flatMap_cons, Draft.extend_append, agentTexts,
      List.append_assoc]

lemma lookup_ownText_self (entry : Catalog.Entry) :
    (ownText repo entry).lookup entry.kind = agentText? repo entry := by
  rw [ownText]
  cases agentText? repo entry with
  | none => rfl
  | some text => simp

lemma lookup_ownText_of_ne {kind : ArtifactKind} {entry : Catalog.Entry} (h : kind ≠ entry.kind) :
    (ownText repo entry).lookup kind = none := by
  rw [ownText]
  cases agentText? repo entry with
  | none => rfl
  | some text => simp [h]

lemma lookup_agentTexts_of_not_mem {kind : ArtifactKind} {entries : List Catalog.Entry}
    (h : kind ∉ entries.map (·.kind)) : (agentTexts repo entries).lookup kind = none := by
  induction entries with
  | nil => rfl
  | cons entry rest ih =>
    rw [List.map_cons, List.mem_cons, not_or] at h
    rw [agentTexts, List.lookup_append, ih h.2, Option.none_or, lookup_ownText_of_ne h.1]

/-- An entry gets back the text of its own agent. -/
lemma lookup_agentTexts {entries : List Catalog.Entry} (hkinds : (entries.map (·.kind)).Nodup)
    {entry : Catalog.Entry} (hentry : entry ∈ entries) :
    (agentTexts repo entries).lookup entry.kind = agentText? repo entry := by
  induction entries with
  | nil => contradiction
  | cons first rest ih =>
    obtain ⟨hfirst, hrest⟩ := List.nodup_cons.mp hkinds
    rw [agentTexts, List.lookup_append]
    rcases List.mem_cons.mp hentry with rfl | hmem
    · -- a later entry of the same kind would come first
      rw [lookup_agentTexts_of_not_mem hfirst, Option.none_or, lookup_ownText_self]
    · have hne : entry.kind ≠ first.kind := fun heq =>
        hfirst (List.mem_map.mpr ⟨entry, hmem, heq⟩)
      rw [ih hrest hmem, lookup_ownText_of_ne hne, Option.or_none]

/-- The diagnostics of copies of the template in the agent document of an entry. -/
def copyFindings (repo : Repository) (entry : Catalog.Entry) : List Diagnostic :=
  match entry.agent, agentText? repo entry with
  | some agent, some text => (Check.embeddedSkeleton? agent text entry).toList
  | _, _ => []

lemma skeletonFindings_agentTexts {entries : List Catalog.Entry}
    (hkinds : (entries.map (·.kind)).Nodup) {entry : Catalog.Entry} (hentry : entry ∈ entries) :
    skeletonFindings (agentTexts repo entries) entry = copyFindings repo entry := by
  rw [skeletonFindings, lookup_agentTexts hkinds hentry]
  rfl

/-! ### Artifacts -/

/-- The diagnostics of a file that belongs to an entry. -/
def artifactFindings (repo : Repository) (strictness : Strictness)
    (found : Path × Catalog.Entry) : List Diagnostic :=
  if repo.isPresent found.1 then
    fileFindings repo .artifact found.1 (Check.artifact found.2 strictness found.1)
  else []

/-- The diagnostics of the output directory and of the artifacts in it. -/
def outputFindings (repo : Repository) (catalog : Catalog) (strictness : Strictness) :
    List Diagnostic :=
  match repo.files catalog.outputRoot with
  | .error error => [scanFailed catalog.outputRoot error]
  | .ok files =>
    match catalog.matched files with
    | [] => [noArtifacts catalog.outputRoot]
    | found => found.flatMap (artifactFindings repo strictness)

/-- No file in the output directory belongs to an entry. -/
def NoneMatched (repo : Repository) (catalog : Catalog) : Prop :=
  ∃ files, repo.files catalog.outputRoot = .ok files ∧ catalog.matched files = []

lemma mem_outputFindings_iff {d : Diagnostic} :
    d ∈ outputFindings repo catalog strictness ↔
      (∃ error, repo.files catalog.outputRoot = .error error ∧
        d = scanFailed catalog.outputRoot error) ∨
      (NoneMatched repo catalog ∧ d = noArtifacts catalog.outputRoot) ∨
      ∃ files, repo.files catalog.outputRoot = .ok files ∧
        ∃ found ∈ catalog.matched files, d ∈ artifactFindings repo strictness found := by
  rw [outputFindings, NoneMatched]
  cases repo.files catalog.outputRoot with
  | error error => simp
  | ok files =>
    cases hfound : catalog.matched files with
    | nil => simp [hfound]
    | cons first rest =>
      simp only [hfound, List.mem_flatMap, reduceCtorEq, false_and, exists_false, false_or,
        Except.ok.injEq, exists_eq_left']

/-- The artifacts among files that belong to an entry. -/
def shown (repo : Repository) (found : List (Path × Catalog.Entry)) : List String :=
  (found.filter (repo.isPresent ·.1)).map (·.1.display)

/-- The artifacts that a run looks at. -/
def examined (repo : Repository) (catalog : Catalog) : List String :=
  match repo.files catalog.outputRoot with
  | .error _ => []
  | .ok files => shown repo (catalog.matched files)

lemma shown_cons (first : Path × Catalog.Entry) (rest : List (Path × Catalog.Entry)) :
    shown repo (first :: rest) = shown repo [first] ++ shown repo rest := by
  rw [shown, ← List.singleton_append, List.filter_append, List.map_append]
  rfl

lemma checkArtifact_eq (draft : Draft) (artifacts : List String) (found : Path × Catalog.Entry) :
    checkArtifact repo strictness (draft, artifacts) found =
      (draft.extend (artifactFindings repo strictness found), artifacts ++ shown repo [found]) := by
  rw [checkArtifact, artifactFindings, shown]
  by_cases hpresent : repo.isPresent found.1 = true
  · simp only [hpresent, if_true, fileFindings]
    cases load repo .artifact found.1 with
    | ok text => simp [hpresent]
    | error d => simp [hpresent]
  · simp [hpresent]

lemma foldl_checkArtifact (draft : Draft) (artifacts : List String)
    (found : List (Path × Catalog.Entry)) :
    found.foldl (checkArtifact repo strictness) (draft, artifacts) =
      (draft.extend (found.flatMap (artifactFindings repo strictness)),
        artifacts ++ shown repo found) := by
  induction found generalizing draft artifacts with
  | nil => simp [shown]
  | cons first rest ih =>
    rw [List.foldl_cons, checkArtifact_eq, ih, List.flatMap_cons, Draft.extend_append,
      shown_cons first rest, List.append_assoc]

lemma checkArtifacts_eq (draft : Draft) :
    checkArtifacts repo catalog strictness draft =
      (draft.extend (outputFindings repo catalog strictness), examined repo catalog) := by
  rw [checkArtifacts, outputFindings, examined]
  cases repo.files catalog.outputRoot with
  | error error => rfl
  | ok files =>
    cases hfound : catalog.matched files with
    | nil => simp only [hfound]; rfl
    | cons first rest => simp only [hfound, foldl_checkArtifact, List.nil_append]

/-! ### All steps -/

/-- The diagnostics of a run. -/
def findings (repo : Repository) (catalog : Catalog) (strictness : Strictness) :
    List Diagnostic :=
  catalog.entries.flatMap (templateFindings repo) ++
    catalog.entries.flatMap (agentFindings repo) ++
    catalog.entries.flatMap (skeletonFindings (agentTexts repo catalog.entries)) ++
    standardsFindings repo catalog.standardsDoc ++ outputFindings repo catalog strictness

/-- The diagnostics of the steps before the last one. -/
def documentFindings (repo : Repository) (catalog : Catalog) : List Diagnostic :=
  catalog.entries.flatMap (templateFindings repo) ++
    catalog.entries.flatMap (agentFindings repo) ++
    catalog.entries.flatMap (skeletonFindings (agentTexts repo catalog.entries)) ++
    standardsFindings repo catalog.standardsDoc

lemma findings_eq (strictness : Strictness) :
    findings repo catalog strictness =
      documentFindings repo catalog ++ outputFindings repo catalog strictness := rfl

/-- The report of a run is that of a draft with the diagnostics of its steps in a row. -/
lemma lint_eq :
    lint repo catalog strictness =
      (Draft.empty.extend (findings repo catalog strictness)).finish repo.root.text strictness
        (examined repo catalog) := by
  simp only [lint, foldl_loadAgent, checkArtifacts_eq, findings, Draft.extend_append,
    List.append_nil]

@[simp] lemma diagnostics_lint :
    (lint repo catalog strictness).diagnostics = findings repo catalog strictness := by
  rw [lint_eq]
  exact Draft.diagnostics_extend ..

@[simp] lemma artifacts_lint :
    (lint repo catalog strictness).artifacts = examined repo catalog := by
  rw [lint_eq]
  rfl

lemma outcome_lint_eq_fail_iff_hasError :
    (lint repo catalog strictness).outcome = .fail ↔ HasError (findings repo catalog strictness) := by
  rw [lint_eq, Draft.outcome_finish_eq_fail_iff (Draft.faithful_extend_empty _),
    Draft.diagnostics_extend]
  rfl

lemma outcome_lint_eq_pass_iff :
    (lint repo catalog strictness).outcome = .pass ↔ findings repo catalog strictness = [] := by
  rw [lint_eq, Draft.outcome_finish_eq_pass_iff (Draft.faithful_extend_empty _),
    Draft.diagnostics_extend]
  rfl

lemma errors_lint :
    (lint repo catalog strictness).summary.errors =
      (findings repo catalog strictness).countP (·.severity == .error) := by
  rw [← diagnostics_lint, lint_eq]
  rfl

end OutlineLint.Lint

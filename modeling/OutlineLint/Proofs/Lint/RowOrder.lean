import OutlineLint.Proofs.Catalog.Selection
import OutlineLint.Proofs.Lint.Strictness
import OutlineLint.Proofs.Report.Accounts

/-!
# The order of the entries

The steps of a run go through the entries of a catalog one by one, so the order of the entries is
that of the diagnostics. It is no more than that if the kinds of the entries are distinct, since
then each entry gets back the text of its own agent, and if no file fits two entries, since then the
first entry that a file fits is the only one (`entryFor?_perm`). Such a run finds the same about other
arrangements of the entries, and the same about the artifacts in the same order
(`lint_of_rearranged`).
-/

namespace OutlineLint

namespace Catalog

variable {catalog catalog' : Catalog} {entry : Entry} {name : String}

/-- The catalogs differ at most in the order of their entries. -/
structure Rearranged (catalog catalog' : Catalog) : Prop where
  outputRoot_eq : catalog.outputRoot = catalog'.outputRoot
  standardsDoc_eq : catalog.standardsDoc = catalog'.standardsDoc
  entries_perm : catalog.entries.Perm catalog'.entries

/-- The name fits one entry at most. -/
def Unambiguous (catalog : Catalog) (name : String) : Prop :=
  ∀ entry ∈ catalog.entries, ∀ other ∈ catalog.entries, entry.Fits name → other.Fits name →
    entry = other

instance (catalog : Catalog) (name : String) : Decidable (catalog.Unambiguous name) :=
  inferInstanceAs (Decidable (∀ entry ∈ catalog.entries, ∀ other ∈ catalog.entries, _))

lemma Unambiguous.perm (h : catalog.Unambiguous name)
    (hperm : catalog.entries.Perm catalog'.entries) : catalog'.Unambiguous name := by
  intro entry hentry other hother
  exact h entry (hperm.mem_iff.mpr hentry) other (hperm.mem_iff.mpr hother)

/-- Where a name fits one entry at most, it does not matter which entry comes first. -/
lemma Unambiguous.entryFor?_eq_some_iff (h : catalog.Unambiguous name) :
    catalog.entryFor? name = some entry ↔ entry ∈ catalog.entries ∧ entry.Fits name := by
  constructor
  · intro hentry
    obtain ⟨hfits, before, after, hentries, -⟩ := Catalog.entryFor?_eq_some_iff.mp hentry
    exact ⟨by simp [hentries], hfits⟩
  · rintro ⟨hmem, hfits⟩
    have hsome : (catalog.entryFor? name).isSome := by
      rw [entryFor?, List.find?_isSome]
      exact ⟨entry, hmem, endsWith_fileName_iff.mpr hfits⟩
    obtain ⟨first, hfirst⟩ := Option.isSome_iff_exists.mp hsome
    obtain ⟨hfirstFits, before, after, hentries, -⟩ := Catalog.entryFor?_eq_some_iff.mp hfirst
    have hfirstMem : first ∈ catalog.entries := by simp [hentries]
    rw [hfirst, h first hfirstMem entry hmem hfirstFits hfits]

lemma entryFor?_perm (h : catalog.Unambiguous name)
    (hperm : catalog.entries.Perm catalog'.entries) :
    catalog.entryFor? name = catalog'.entryFor? name := by
  ext entry
  rw [h.entryFor?_eq_some_iff, (h.perm hperm).entryFor?_eq_some_iff, hperm.mem_iff]

/-- The files are paired with the same entries. -/
lemma matched_perm {files : List Path} (hperm : catalog.entries.Perm catalog'.entries)
    (h : ∀ path ∈ files, ∀ name, path.fileName? = some (Text.bytes name) →
      catalog.Unambiguous name) : catalog.matched files = catalog'.matched files := by
  rw [matched, matched]
  apply List.filterMap_congr
  intro path hpath
  suffices hentry : catalog.entryForPath? path = catalog'.entryForPath? path by rw [hentry]
  rw [entryForPath?, entryForPath?]
  cases hname : path.fileName?.bind Text.ofBytes? with
  | none => rfl
  | some name =>
    obtain ⟨bytes, hbytes, htext⟩ := Option.bind_eq_some_iff.mp hname
    rw [← Text.bytes_of_ofBytes? htext] at hbytes
    exact entryFor?_perm (h path hpath name hbytes) hperm

end Catalog

/-! ### Reports with the same accounts -/

namespace Report

variable {report report' : Report}

/-- What a report counts depends on no order. -/
lemma Balanced.summary_eq (h : report.Balanced) (h' : report'.Balanced)
    (hdiagnostics : report.diagnostics.Perm report'.diagnostics)
    (hartifacts : report.artifacts = report'.artifacts) : report.summary = report'.summary := by
  have herrors : report.summary.errors = report'.summary.errors := by
    rw [h.errors_eq, h'.errors_eq, hdiagnostics.countP_eq]
  have hwarnings : report.summary.warnings = report'.summary.warnings := by
    rw [h.warnings_eq, h'.warnings_eq, hdiagnostics.countP_eq]
  have hnumber : report.summary.artifacts = report'.summary.artifacts := by
    rw [h.artifacts_eq, h'.artifacts_eq, hartifacts]
  cases hsummary : report.summary with
  | mk errors warnings artifacts =>
    cases hsummary' : report'.summary with
    | mk errors' warnings' artifacts' => simp_all

/-- The outcome follows from the counts. -/
lemma Balanced.outcome_eq (h : report.Balanced) (h' : report'.Balanced)
    (hsummary : report.summary = report'.summary) : report.outcome = report'.outcome := by
  cases houtcome : report.outcome with
  | fail => rw [eq_comm, h'.outcome_eq_fail_iff, ← hsummary, ← h.outcome_eq_fail_iff, houtcome]
  | passWithWarnings =>
    rw [eq_comm, h'.outcome_eq_passWithWarnings_iff, ← hsummary,
      ← h.outcome_eq_passWithWarnings_iff, houtcome]
  | pass =>
    have hlength : report.diagnostics.length = report'.diagnostics.length := by
      rw [← h.errors_add_warnings, ← h'.errors_add_warnings, hsummary]
    rw [eq_comm, h'.outcome_eq_pass_iff, ← List.length_eq_zero_iff, ← hlength,
      List.length_eq_zero_iff, ← h.outcome_eq_pass_iff, houtcome]

end Report

namespace Lint

variable {repo : Repository} {catalog catalog' : Catalog}

/-! ### Runs over rearranged entries -/

/-- The diagnostics of the steps that go through the entries. -/
def entryFindings (repo : Repository) (catalog : Catalog) : List Diagnostic :=
  catalog.entries.flatMap (templateFindings repo) ++
    catalog.entries.flatMap (agentFindings repo) ++
    catalog.entries.flatMap (skeletonFindings (agentTexts repo catalog.entries))

lemma entryFindings_eq (hkinds : (catalog.entries.map (·.kind)).Nodup) :
    entryFindings repo catalog = catalog.entries.flatMap (templateFindings repo) ++
      catalog.entries.flatMap (agentFindings repo) ++
      catalog.entries.flatMap (copyFindings repo) := by
  rw [entryFindings]
  congr 1
  exact List.flatMap_congr fun entry hentry => skeletonFindings_agentTexts hkinds hentry

lemma entryFindings_perm (h : catalog.Rearranged catalog')
    (hkinds : (catalog.entries.map (·.kind)).Nodup) :
    (entryFindings repo catalog).Perm (entryFindings repo catalog') := by
  have hkinds' : (catalog'.entries.map (·.kind)).Nodup :=
    (h.entries_perm.map (·.kind)).nodup_iff.mp hkinds
  -- the texts of the agents are kept in another order, but each entry gets back its own
  rw [entryFindings_eq hkinds, entryFindings_eq hkinds']
  apply List.Perm.append
  · exact (h.entries_perm.flatMap_right _).append (h.entries_perm.flatMap_right _)
  · exact h.entries_perm.flatMap_right _

/-- No file in the output directory has a name that fits two entries. -/
def FilesUnambiguous (repo : Repository) (catalog : Catalog) : Prop :=
  ∀ files, repo.files catalog.outputRoot = .ok files → ∀ path ∈ files,
    ∀ name, path.fileName? = some (Text.bytes name) → catalog.Unambiguous name

lemma checkArtifacts_of_rearranged (strictness : Strictness) (h : catalog.Rearranged catalog')
    (hfiles : FilesUnambiguous repo catalog) (draft : Report.Draft) :
    checkArtifacts repo catalog strictness draft =
      checkArtifacts repo catalog' strictness draft := by
  rw [checkArtifacts, checkArtifacts, ← h.outputRoot_eq]
  cases hlisted : repo.files catalog.outputRoot with
  | error error => rfl
  | ok files => simp only [Catalog.matched_perm h.entries_perm (hfiles files hlisted)]

/-- If the kinds of the entries are distinct and no file in the output directory has a name that
fits two entries, then a run over the catalog with its entries in another order looks at the same
artifacts and counts and ends the same. It reports the same diagnostics, and only those of the steps
that go through the entries may come in another order: those about the standards document and about
the artifacts follow them unchanged. -/
theorem lint_of_rearranged (strictness : Strictness) (h : catalog.Rearranged catalog')
    (hkinds : (catalog.entries.map (·.kind)).Nodup) (hfiles : FilesUnambiguous repo catalog) :
    let report := lint repo catalog strictness
    let report' := lint repo catalog' strictness
    let ofStandards := standardsFindings repo catalog.standardsDoc
    let ofArtifacts := (checkArtifacts repo catalog strictness .empty).1.diagnostics
    report.artifacts = report'.artifacts ∧ report.summary = report'.summary ∧
      report.outcome = report'.outcome ∧ report.diagnostics.Perm report'.diagnostics ∧
      standardsFindings repo catalog'.standardsDoc = ofStandards ∧
      (checkArtifacts repo catalog' strictness .empty).1.diagnostics = ofArtifacts ∧
      ∃ ofEntries ofEntries', ofEntries.Perm ofEntries' ∧
        report.diagnostics = ofEntries ++ ofStandards ++ ofArtifacts ∧
        report'.diagnostics = ofEntries' ++ ofStandards ++ ofArtifacts := by
  intro report report' ofStandards ofArtifacts
  have hstandards : standardsFindings repo catalog'.standardsDoc = ofStandards := by
    rw [← h.standardsDoc_eq]
  have hchecked := checkArtifacts_of_rearranged strictness h hfiles .empty
  have hentries : (entryFindings repo catalog).Perm (entryFindings repo catalog') :=
    entryFindings_perm h hkinds
  have hdiagnostics : report.diagnostics =
      entryFindings repo catalog ++ ofStandards ++ ofArtifacts := by
    rw [diagnostics_lint, findings_eq, ← diagnostics_checkArtifacts_empty]
    rfl
  have hdiagnostics' : report'.diagnostics =
      entryFindings repo catalog' ++ ofStandards ++ ofArtifacts := by
    rw [diagnostics_lint, findings_eq, ← diagnostics_checkArtifacts_empty, ← hchecked,
      documentFindings, hstandards]
    rfl
  have hartifacts : report.artifacts = report'.artifacts := by
    rw [artifacts_lint, artifacts_lint]
    simpa [checkArtifacts_eq] using congrArg Prod.snd hchecked
  have hperm : report.diagnostics.Perm report'.diagnostics := by
    rw [hdiagnostics, hdiagnostics']
    exact (hentries.append_right _).append_right _
  have hbalanced : report.Balanced := balanced_lint repo catalog strictness
  have hbalanced' : report'.Balanced := balanced_lint repo catalog' strictness
  have hsummary : report.summary = report'.summary :=
    hbalanced.summary_eq hbalanced' hperm hartifacts
  exact ⟨hartifacts, hsummary, hbalanced.outcome_eq hbalanced' hsummary, hperm, hstandards,
    by rw [← hchecked], _, _, hentries, hdiagnostics, hdiagnostics'⟩

/-- Two entries change places: the template of the first has drifted, that of the second is missing,
and there is an artifact of either. -/
theorem lint_of_rearranged_swapped :
    let schema : Schema := ⟨["## A"], [], by constructor <;> decide⟩
    let plan : Catalog.Entry :=
      ⟨⟨"plan", by decide⟩, "plan.md", .ofString "t.md", some (.ofString "agents/p.md"), schema⟩
    let raid : Catalog.Entry :=
      ⟨⟨"raid", by decide⟩, "raid.md", .ofString "r.md", some (.ofString "agents/r.md"), schema⟩
    let catalog : Catalog := ⟨.ofString "out", .ofString "standards.md", [plan, raid]⟩
    let catalog' : Catalog := ⟨.ofString "out", .ofString "standards.md", [raid, plan]⟩
    let repo : Repository :=
      { root := .ofString "."
        isPresent := fun path => path ≠ .ofString "r.md"
        read := fun path => if path = .ofString "agents/p.md" then .ok "t.md" else .ok ""
        files := fun _ => .ok [.ofString "out/a-plan.md", .ofString "out/raid.md"] }
    let report := lint repo catalog .relaxed
    let report' := lint repo catalog' .relaxed
    catalog.Rearranged catalog' ∧ (catalog.entries.map (·.kind)).Nodup ∧
      FilesUnambiguous repo catalog ∧ report.diagnostics ≠ report'.diagnostics ∧
      report.artifacts = report'.artifacts ∧ report.summary = report'.summary ∧
      report.outcome = report'.outcome ∧ report.diagnostics.Perm report'.diagnostics := by
  intro schema plan raid catalog catalog' repo report report'
  have hrearranged : catalog.Rearranged catalog' := ⟨rfl, rfl, List.Perm.swap raid plan []⟩
  have hkinds : (catalog.entries.map (·.kind)).Nodup := by decide
  have hfiles : FilesUnambiguous repo catalog := by
    intro files hlisted path hpath name hname
    obtain rfl := Except.ok.inj hlisted
    rcases List.mem_pair.mp hpath with rfl | rfl
    · obtain rfl : name = "a-plan.md" :=
        Text.bytes_injective (Option.some.inj (hname.symm.trans (by decide)))
      decide
    · obtain rfl : name = "raid.md" :=
        Text.bytes_injective (Option.some.inj (hname.symm.trans (by decide)))
      decide
  have hdiffer : report.diagnostics ≠ report'.diagnostics := by decide +kernel
  obtain ⟨hartifacts, hsummary, houtcome, hperm, -⟩ :=
    lint_of_rearranged .relaxed hrearranged hkinds hfiles
  exact ⟨hrearranged, hkinds, hfiles, hdiffer, hartifacts, hsummary, houtcome, hperm⟩

end Lint

end OutlineLint

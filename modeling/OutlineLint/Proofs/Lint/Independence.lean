import Mathlib.Data.List.Basic
import OutlineLint.Proofs.Lint.Places

/-!
# Findings about other files

Let two repositories differ in one file only: it is there in one and not in the other, it can be
read in one only, or its text is another. Each step of a run looks at one file after the other, and
what it finds in one either concerns the file that differs or is the same in both repositories
(`elsewhere_congr`). So the reports of two runs agree about all other files
(`elsewhere_lint_of_agree`).
-/

namespace OutlineLint.Lint

/-! ### Repositories that differ in one file -/

/-- The repositories list the same files, and answer alike about every path but those that are shown
as the given one. -/
structure AgreeElsewhere (a b : Repository) (path : Path) : Prop where
  files : ∀ root, a.files root = b.files root
  isPresent : ∀ other, other.display ≠ path.display → a.isPresent other = b.isPresent other
  read : ∀ other, other.display ≠ path.display → a.read other = b.read other

/-- Repositories that answer alike about every other path agree elsewhere. -/
lemma AgreeElsewhere.of_ne {a b : Repository} {path : Path}
    (hfiles : ∀ root, a.files root = b.files root)
    (hisPresent : ∀ other, other ≠ path → a.isPresent other = b.isPresent other)
    (hread : ∀ other, other ≠ path → a.read other = b.read other) : AgreeElsewhere a b path where
  files := hfiles
  isPresent := by
    intro other hshown
    exact hisPresent other (ne_of_apply_ne Path.display hshown)
  read := by
    intro other hshown
    exact hread other (ne_of_apply_ne Path.display hshown)

/-- The diagnostics that are not about the file that is shown so. -/
def elsewhere (shown : String) (ds : List Diagnostic) : List Diagnostic :=
  ds.filter (·.path ≠ some shown)

@[simp] lemma elsewhere_append (shown : String) (ds es : List Diagnostic) :
    elsewhere shown (ds ++ es) = elsewhere shown ds ++ elsewhere shown es :=
  List.filter_append ..

lemma elsewhere_flatMap_congr {α : Type} {xs : List α} {f g : α → List Diagnostic} {shown : String}
    (h : ∀ x ∈ xs, elsewhere shown (f x) = elsewhere shown (g x)) :
    elsewhere shown (xs.flatMap f) = elsewhere shown (xs.flatMap g) := by
  rw [elsewhere, elsewhere, List.filter_flatMap, List.filter_flatMap]
  exact List.flatMap_congr h

lemma elsewhere_eq_nil {ds : List Diagnostic} {shown : String} (h : AllConcern ds shown) :
    elsewhere shown ds = [] := by
  rw [elsewhere, List.filter_eq_nil_iff]
  intro d hd
  simp [(h d hd).path_eq]

/-- What is found in one file is the same elsewhere, if it is the same for another file. -/
lemma elsewhere_congr {ds es : List Diagnostic} {place shown : String} (hds : AllConcern ds place)
    (hes : AllConcern es place) (h : place ≠ shown → ds = es) :
    elsewhere shown ds = elsewhere shown es := by
  by_cases hplace : place = shown
  · subst hplace
    rw [elsewhere_eq_nil hds, elsewhere_eq_nil hes]
  · rw [h hplace]

/-! ### Steps -/

namespace AgreeElsewhere

variable {a b : Repository} {path : Path}

lemma load_eq (h : AgreeElsewhere a b path) {other : Path} (hne : other.display ≠ path.display)
    (resource : Resource) : load a resource other = load b resource other := by
  rw [load, load, h.isPresent other hne, h.read other hne]

lemma fileFindings_eq (h : AgreeElsewhere a b path) {other : Path}
    (hne : other.display ≠ path.display) (resource : Resource) (check : String → List Diagnostic) :
    fileFindings a resource other check = fileFindings b resource other check := by
  rw [fileFindings, fileFindings, h.load_eq hne]

lemma elsewhere_templateFindings (h : AgreeElsewhere a b path) (entry : Catalog.Entry) :
    elsewhere path.display (templateFindings a entry) =
      elsewhere path.display (templateFindings b entry) := by
  refine elsewhere_congr allConcern_templateFindings allConcern_templateFindings fun hne => ?_
  rw [templateFindings_eq, templateFindings_eq, h.fileFindings_eq hne]

lemma elsewhere_agentFindings (h : AgreeElsewhere a b path) (entry : Catalog.Entry) :
    elsewhere path.display (agentFindings a entry) =
      elsewhere path.display (agentFindings b entry) := by
  cases hagent : entry.agent with
  | none => simp only [agentFindings, hagent]
  | some agent =>
    refine elsewhere_congr (allConcern_agentFindings hagent) (allConcern_agentFindings hagent)
      fun hne => ?_
    simp only [agentFindings, hagent, h.fileFindings_eq hne]

/-- The text of an agent document comes from the step before, but it is that of the own document. -/
lemma elsewhere_skeletonFindings (h : AgreeElsewhere a b path) {entries : List Catalog.Entry}
    (hkinds : (entries.map (·.kind)).Nodup) {entry : Catalog.Entry} (hentry : entry ∈ entries) :
    elsewhere path.display (skeletonFindings (agentTexts a entries) entry) =
      elsewhere path.display (skeletonFindings (agentTexts b entries) entry) := by
  cases hagent : entry.agent with
  | none => simp only [skeletonFindings, hagent]
  | some agent =>
    refine elsewhere_congr (allConcern_skeletonFindings hagent)
      (allConcern_skeletonFindings hagent) fun hne => ?_
    rw [skeletonFindings_agentTexts hkinds hentry, skeletonFindings_agentTexts hkinds hentry]
    simp only [copyFindings, agentText?, hagent, Option.bind_some, h.load_eq hne]

lemma elsewhere_standardsFindings (h : AgreeElsewhere a b path) (standardsDoc : Path) :
    elsewhere path.display (standardsFindings a standardsDoc) =
      elsewhere path.display (standardsFindings b standardsDoc) := by
  refine elsewhere_congr (allConcern_standardsFindings _) (allConcern_standardsFindings _)
    fun hne => ?_
  rw [standardsFindings, standardsFindings, h.isPresent _ hne, h.read _ hne]

lemma elsewhere_artifactFindings (h : AgreeElsewhere a b path) (strictness : Strictness)
    (found : Path × Catalog.Entry) :
    elsewhere path.display (artifactFindings a strictness found) =
      elsewhere path.display (artifactFindings b strictness found) := by
  refine elsewhere_congr allConcern_artifactFindings allConcern_artifactFindings fun hne => ?_
  rw [artifactFindings, artifactFindings, h.isPresent _ hne, h.fileFindings_eq hne]

lemma elsewhere_outputFindings (h : AgreeElsewhere a b path) (catalog : Catalog)
    (strictness : Strictness) :
    elsewhere path.display (outputFindings a catalog strictness) =
      elsewhere path.display (outputFindings b catalog strictness) := by
  rw [outputFindings, outputFindings, h.files]
  cases b.files catalog.outputRoot with
  | error error => rfl
  | ok files =>
    cases hfound : catalog.matched files with
    | nil => simp only [hfound]
    | cons first rest =>
      simp only [hfound]
      exact elsewhere_flatMap_congr fun found _ => h.elsewhere_artifactFindings strictness found

/-! ### Runs -/

lemma elsewhere_findings (h : AgreeElsewhere a b path) {catalog : Catalog}
    (hkinds : (catalog.entries.map (·.kind)).Nodup) (strictness : Strictness) :
    elsewhere path.display (findings a catalog strictness) =
      elsewhere path.display (findings b catalog strictness) := by
  have htemplates : elsewhere path.display (catalog.entries.flatMap (templateFindings a)) =
      elsewhere path.display (catalog.entries.flatMap (templateFindings b)) :=
    elsewhere_flatMap_congr fun entry _ => h.elsewhere_templateFindings entry
  have hagents : elsewhere path.display (catalog.entries.flatMap (agentFindings a)) =
      elsewhere path.display (catalog.entries.flatMap (agentFindings b)) :=
    elsewhere_flatMap_congr fun entry _ => h.elsewhere_agentFindings entry
  have hskeletons := elsewhere_flatMap_congr fun entry hentry =>
    h.elsewhere_skeletonFindings hkinds hentry
  simp only [findings, elsewhere_append, htemplates, hagents, hskeletons,
    h.elsewhere_standardsFindings, h.elsewhere_outputFindings]

/-- A file that differs is at most the difference of being looked at or not. -/
lemma filter_shown (h : AgreeElsewhere a b path) (found : List (Path × Catalog.Entry)) :
    (shown a found).filter (· ≠ path.display) = (shown b found).filter (· ≠ path.display) := by
  rw [shown, shown, List.filter_map, List.filter_map, List.filter_filter, List.filter_filter]
  congr 1
  refine List.filter_congr fun candidate _ => ?_
  by_cases hplace : candidate.1.display = path.display
  · simp [hplace]
  · simp [h.isPresent _ hplace]

lemma filter_examined (h : AgreeElsewhere a b path) (catalog : Catalog) :
    (examined a catalog).filter (· ≠ path.display) =
      (examined b catalog).filter (· ≠ path.display) := by
  rw [examined, examined, h.files]
  cases b.files catalog.outputRoot with
  | error error => rfl
  | ok files => exact h.filter_shown _

end AgreeElsewhere

/-- If the kinds are distinct, runs over repositories that differ in one file only report the same
about all other files, in the same order, and look at the same other artifacts. -/
theorem elsewhere_lint_of_agree {a b : Repository} {path : Path} (h : AgreeElsewhere a b path)
    (catalog : Catalog) (hkinds : (catalog.entries.map (·.kind)).Nodup) (strictness : Strictness) :
    elsewhere path.display (lint a catalog strictness).diagnostics =
        elsewhere path.display (lint b catalog strictness).diagnostics ∧
      (lint a catalog strictness).artifacts.filter (· ≠ path.display) =
        (lint b catalog strictness).artifacts.filter (· ≠ path.display) := by
  constructor
  · rw [diagnostics_lint, diagnostics_lint]
    exact h.elsewhere_findings hkinds strictness
  · rw [artifacts_lint, artifacts_lint]
    exact h.filter_examined catalog

/-- In one of the repositories the template of the first entry is missing. The file is also an
artifact, and both entries have the same agent, whose document links neither template. -/
theorem elsewhere_lint_of_agree_missing :
    let schema : Schema := ⟨["## A"], [], by constructor <;> decide⟩
    let entry (kind : ArtifactKind) (template : String) : Catalog.Entry :=
      ⟨kind, "plan.md", .ofString template, some (.ofString "planner.md"), schema⟩
    let catalog : Catalog :=
      ⟨.ofString "out", .ofString "standards.md",
        [entry ⟨"plan", by decide⟩ "plan.md", entry ⟨"review", by decide⟩ "review.md"]⟩
    let repo (isPresent : Path → Bool) : Repository :=
      { root := .ofString "."
        isPresent := isPresent
        read := fun _ => .ok "## B"
        files := fun _ => .ok [.ofString "plan.md"] }
    let path := Path.ofString "plan.md"
    let whole := repo fun _ => true
    let broken := repo fun other => other ≠ path
    AgreeElsewhere whole broken path ∧ (catalog.entries.map (·.kind)).Nodup ∧
      elsewhere path.display (lint whole catalog .standard).diagnostics =
        elsewhere path.display (lint broken catalog .standard).diagnostics ∧
      (lint whole catalog .standard).artifacts.filter (· ≠ path.display) =
        (lint broken catalog .standard).artifacts.filter (· ≠ path.display) := by
  intro schema entry catalog repo path whole broken
  have hagree : AgreeElsewhere whole broken path :=
    .of_ne (fun _ => rfl) (fun other hother => by simp [whole, broken, repo, hother])
      (fun _ _ => rfl)
  have hkinds : (catalog.entries.map (·.kind)).Nodup := by decide
  exact ⟨hagree, hkinds, elsewhere_lint_of_agree hagree catalog hkinds .standard⟩

end OutlineLint.Lint

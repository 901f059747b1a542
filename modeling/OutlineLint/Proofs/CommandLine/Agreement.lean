import OutlineLint.CommandLine.Run
import OutlineLint.Proofs.Catalog.WellFormed
import OutlineLint.Proofs.Check.LineEndings
import OutlineLint.Proofs.Lint.Gate
import OutlineLint.Proofs.Text.Lines

/-!
# What the commands make of one catalog

Three commands take the path of a catalog. Looking for its problems, showing it and checking the
repository with it come to one verdict on the catalog (`doctor_catalog_check_agree`): either it can
be loaded and each of the three can do what it was asked for, or none of them can.
-/

namespace OutlineLint

/-! ### Problems of catalogs -/

namespace Catalog

variable {wording : ReadError.Wording} {repo : Repository} {path : Path}

lemma load_eq_parse {text : String} (h : repo.read path = .ok text) :
    load repo path = parse text := by
  rw [load, h]

lemma problems_ne_nil_of_parse_eq_error {text : String} {error : Error}
    (h : parse text = .error error) : error.problems wording ≠ [] := by
  cases hsheet : Sheet.parse text with
  | error readError =>
    rw [parse, hsheet] at h
    obtain rfl := Except.error.inj h
    exact List.cons_ne_nil _ _
  | ok sheet =>
    rw [parse_eq_of_sheet hsheet] at h
    cases hcatalog : sheet.catalog with
    | ok catalog =>
      rw [hcatalog] at h
      contradiction
    | error problems =>
      rw [hcatalog] at h
      obtain rfl := Except.error.inj h
      simpa [Error.problems] using Sheet.ne_nil_of_catalog_eq_error hcatalog

/-- Whatever keeps a catalog from being loaded is a problem of it. -/
lemma problems_ne_nil_of_load_eq_error {error : Error} (h : load repo path = .error error) :
    error.problems wording ≠ [] := by
  cases hread : repo.read path with
  | error accessError =>
    rw [load, hread] at h
    obtain rfl := Except.error.inj h
    exact List.cons_ne_nil _ _
  | ok text =>
    rw [load_eq_parse hread] at h
    exact problems_ne_nil_of_parse_eq_error h

lemma doctor_eq_nil_iff :
    doctor wording repo path = [] ↔ ∃ catalog, load repo path = .ok catalog := by
  rw [doctor]
  cases hload : load repo path with
  | error error => simp [problems_ne_nil_of_load_eq_error hload]
  | ok catalog => simp

end Catalog

/-! ### Exit codes -/

lemma Outcome.exitCode_eq_zero_iff {outcome : Outcome} : outcome.exitCode = 0 ↔ outcome ≠ fail := by
  cases outcome <;> simp [exitCode]

lemma Outcome.exitCode_ne_usageCode (outcome : Outcome) :
    outcome.exitCode ≠ CommandLine.usageCode := by
  cases outcome <;> simp [exitCode, CommandLine.usageCode]

namespace CommandLine

variable {wording : Wording} {repo : Repository} {path : Path} {strictness : Strictness}
  {format : ReportFormat} {catalogFormat : CatalogFormat}

lemma run_eq {tree : FileTree} {words : List String} {fromEnv : Option String}
    {root : Option Path} {command : Command} (h : parse words fromEnv = .run root command) :
    run wording tree words fromEnv =
      command.run wording (tree.repository (root.getD (placePath tree.workingDirectory))) := by
  rw [run, h]

lemma problemsAt_some :
    problemsAt wording repo (some path) = Catalog.doctor wording.readError repo path := rfl

lemma code_doctor :
    ((Command.doctor (some path)).run wording repo).code =
      if Catalog.doctor wording.readError repo path = [] then 0 else usageCode := by
  simp only [Command.run, problemsAt_some]
  cases Catalog.doctor wording.readError repo path with
  | nil => rfl
  | cons problem rest => rfl

/-- Every problem is listed in a line of its own. -/
lemma infix_output_doctor {problem : String}
    (h : problem ∈ Catalog.doctor wording.readError repo path) :
    ("error: " ++ problem ++ "\n").toList <:+:
      ((Command.doctor (some path)).run wording repo).output.toList := by
  simp only [Command.run, problemsAt_some]
  split
  · next hnil =>
    rw [hnil] at h
    contradiction
  · have hline : ("error: " ++ problem).toList ∈
        ((Catalog.doctor wording.readError repo path).map fun problem =>
          s!"error: {problem}").map String.toList := by
      rw [List.map_map]
      exact List.mem_map.mpr ⟨problem, h, rfl⟩
    simp only [Exit.printed, String.toList_append, String.toList_intercalate, List.map_append]
      at hline ⊢
    exact (Text.append_newline_infix_unlines hline).trans (List.prefix_append _ _).isInfix

lemma code_catalog :
    ((Command.catalog (some path) catalogFormat).run wording repo).code =
      match Catalog.load repo path with
      | .error _ => usageCode
      | .ok _ => 0 := by
  simp only [Command.run, catalogAt]
  cases Catalog.load repo path <;> rfl

lemma code_check :
    ((Command.check strictness (some path) format).run wording repo).code =
      match Catalog.load repo path with
      | .error _ => usageCode
      | .ok catalog => (lint repo catalog strictness).outcome.exitCode := by
  simp only [Command.run, catalogAt]
  cases Catalog.load repo path <;> rfl

/-! ### One verdict -/

/-- Three runs come to one verdict on the catalog at a path, the doctor's, that of the command that
shows the catalog, and that of a check: either there is no problem, the catalog is shown, and the
check exits with 1 or 0, depending on whether it fails; or there is a problem, which is listed, and
all three exit with 2. -/
structure OneVerdict (wording : Wording) (repo : Repository) (path : Path) (strictness : Strictness)
    (doctor catalog check : Exit) : Prop where
  problems_eq_nil_iff : Catalog.doctor wording.readError repo path = [] ↔
    ∃ found, Catalog.load repo path = .ok found
  doctor_code_eq_zero_iff : doctor.code = 0 ↔ ∃ found, Catalog.load repo path = .ok found
  catalog_code_eq_zero_iff : catalog.code = 0 ↔ ∃ found, Catalog.load repo path = .ok found
  check_code_ne_two_iff : check.code ≠ 2 ↔ ∃ found, Catalog.load repo path = .ok found
  of_not_loads : (¬ ∃ found, Catalog.load repo path = .ok found) →
    doctor.code = 2 ∧ catalog.code = 2 ∧ check.code = 2 ∧
      Catalog.doctor wording.readError repo path ≠ [] ∧
      ∀ problem ∈ Catalog.doctor wording.readError repo path,
        ("error: " ++ problem ++ "\n").toList <:+: doctor.output.toList
  of_loads : ∀ found, Catalog.load repo path = .ok found →
    (check.code = 1 ↔ (lint repo found strictness).outcome = .fail) ∧
    (check.code = 0 ↔ (lint repo found strictness).outcome ≠ .fail)

/-- The three commands come to one verdict, whatever the repository and the path are. -/
lemma oneVerdict_run :
    OneVerdict wording repo path strictness ((Command.doctor (some path)).run wording repo)
      ((Command.catalog (some path) catalogFormat).run wording repo)
      ((Command.check strictness (some path) format).run wording repo) := by
  cases hload : Catalog.load repo path with
  | error error =>
    have hfails : ¬ ∃ found, Catalog.load repo path = .ok found := by
      rintro ⟨found, hok⟩
      rw [hload] at hok
      contradiction
    have hproblems : Catalog.doctor wording.readError repo path ≠ [] :=
      fun h => hfails (Catalog.doctor_eq_nil_iff.mp h)
    have hdoctor : ((Command.doctor (some path)).run wording repo).code = 2 := by
      rw [code_doctor, if_neg hproblems, usageCode]
    have hcatalog : ((Command.catalog (some path) catalogFormat).run wording repo).code = 2 := by
      rw [code_catalog, hload, usageCode]
    have hcheck : ((Command.check strictness (some path) format).run wording repo).code = 2 := by
      rw [code_check, hload, usageCode]
    exact {
      problems_eq_nil_iff := Catalog.doctor_eq_nil_iff
      doctor_code_eq_zero_iff := by simp [hdoctor, hfails]
      catalog_code_eq_zero_iff := by simp [hcatalog, hfails]
      check_code_ne_two_iff := by simp [hcheck, hfails]
      of_not_loads := fun _ =>
        ⟨hdoctor, hcatalog, hcheck, hproblems, fun _ => infix_output_doctor⟩
      of_loads := fun found hok => absurd ⟨found, hok⟩ hfails }
  | ok catalog =>
    have hloads : ∃ found, Catalog.load repo path = .ok found := ⟨catalog, hload⟩
    have hdoctor : ((Command.doctor (some path)).run wording repo).code = 0 := by
      rw [code_doctor, if_pos (Catalog.doctor_eq_nil_iff.mpr hloads)]
    have hcatalog : ((Command.catalog (some path) catalogFormat).run wording repo).code = 0 := by
      rw [code_catalog, hload]
    have hcheck : ((Command.check strictness (some path) format).run wording repo).code =
        (lint repo catalog strictness).outcome.exitCode := by
      rw [code_check, hload]
    exact {
      problems_eq_nil_iff := Catalog.doctor_eq_nil_iff
      doctor_code_eq_zero_iff := by simp [hdoctor, hloads]
      catalog_code_eq_zero_iff := by simp [hcatalog, hloads]
      check_code_ne_two_iff := ⟨fun _ => hloads, fun _ => hcheck ▸ Outcome.exitCode_ne_usageCode _⟩
      of_not_loads := fun hfails => absurd hloads hfails
      of_loads := by
        intro found hok
        obtain rfl : catalog = found := Except.ok.inj (hload.symm.trans hok)
        rw [hcheck]
        exact ⟨Outcome.exitCode_eq_one_iff, Outcome.exitCode_eq_zero_iff⟩ }

/-- The three commands come to one verdict on a catalog: for every repository and every path in it,
and so for all words on the command line that are read as these commands, with one root and one
path. -/
theorem doctor_catalog_check_agree (wording : Wording) :
    (∀ (repo : Repository) (path : Path) (strictness : Strictness) (format : ReportFormat)
      (catalogFormat : CatalogFormat),
      OneVerdict wording repo path strictness ((Command.doctor (some path)).run wording repo)
        ((Command.catalog (some path) catalogFormat).run wording repo)
        ((Command.check strictness (some path) format).run wording repo)) ∧
    ∀ (tree : FileTree) (root : Option Path) (path : Path) (strictness : Strictness)
      (format : ReportFormat) (catalogFormat : CatalogFormat) (fromEnv : Option String)
      (doctorWords catalogWords checkWords : List String),
      parse doctorWords fromEnv = .run root (.doctor (some path)) →
      parse catalogWords fromEnv = .run root (.catalog (some path) catalogFormat) →
      parse checkWords fromEnv = .run root (.check strictness (some path) format) →
      OneVerdict wording (tree.repository (root.getD (placePath tree.workingDirectory))) path
        strictness (run wording tree doctorWords fromEnv) (run wording tree catalogWords fromEnv)
        (run wording tree checkWords fromEnv) := by
  refine ⟨fun _ _ _ _ _ => oneVerdict_run, ?_⟩
  intro tree root path strictness format catalogFormat fromEnv doctorWords catalogWords checkWords
    hdoctor hcatalog hcheck
  rw [run_eq hdoctor, run_eq hcatalog, run_eq hcheck]
  exact oneVerdict_run

/-- The catalog is without a problem, but the template in it is missing. -/
theorem doctor_catalog_check_agree_missing_template :
    let text := "\n".intercalate
      ["[[artifacts]]", "kind = 'plan'", "file_name = 'plan.md'", "template = 't.md'",
        "required = ['## A']"]
    let tree : FileTree :=
      ⟨[(Text.bytes "repo", .directory [(Text.bytes "c.toml", .file (Text.bytes text))])], []⟩
    let doctorWords := ["--repo-root", "repo", "doctor", "--catalog=c.toml"]
    let catalogWords := ["catalog", "--format=json", "--catalog", "c.toml", "--repo-root=repo"]
    let checkWords := ["--repo-root=repo", "check", "--catalog=c.toml", "--format", "github"]
    let wording : Wording := ⟨fun _ _ => "not a catalog", fun _ _ => "no help"⟩
    (run wording tree doctorWords none).code = 0 ∧ (run wording tree catalogWords none).code = 0 ∧
      (run wording tree checkWords none).code = 1 := by
  intro text tree doctorWords catalogWords checkWords wording
  let schema : Schema := ⟨["## A"], [], by constructor <;> decide⟩
  let plan : Catalog.Entry :=
    ⟨⟨"plan", by decide⟩, "plan.md", .ofString "t.md", none, schema⟩
  let catalog : Catalog :=
    ⟨.ofString Catalog.defaultOutputRoot, .ofString Catalog.defaultStandardsDoc, [plan]⟩
  let repo := tree.repository (.ofString "repo")
  have hparse : Catalog.parse text = .ok catalog := by
    subst text
    rw [Catalog.parse, Catalog.Sheet.parse, Toml.parse?, String.toList_intercalate]
    decide +kernel
  have hbytes : tree.readBytes (.ofString "repo/c.toml") = .ok (Text.bytes text) := rfl
  have hread : repo.read (.ofString "c.toml") = .ok text := by
    have hendings : Text.unifyLineEndings text = text := by decide +kernel
    exact hendings ▸ FileTree.readFrom_eq_of_readBytes hbytes
  have hload : Catalog.load repo (.ofString "c.toml") = .ok catalog :=
    (Catalog.load_eq_parse hread).trans hparse
  have hfail : (lint repo catalog .relaxed).outcome = .fail :=
    (Lint.outcome_lint_eq_fail_iff repo .relaxed (by decide)).mpr
      (.template List.mem_cons_self (.absent (by decide +kernel)))
  have hdoctorWords : parse doctorWords none =
      .run (some (.ofString "repo")) (.doctor (some (.ofString "c.toml"))) := by decide +kernel
  have hcatalogWords : parse catalogWords none =
      .run (some (.ofString "repo")) (.catalog (some (.ofString "c.toml")) .json) := by
    decide +kernel
  have hcheckWords : parse checkWords none =
      .run (some (.ofString "repo")) (.check .relaxed (some (.ofString "c.toml")) .github) := by
    decide +kernel
  have hverdict := (doctor_catalog_check_agree wording).2 tree _ _ _ _ _ _ _ _ _
    hdoctorWords hcatalogWords hcheckWords
  exact ⟨hverdict.doctor_code_eq_zero_iff.mpr ⟨catalog, hload⟩,
    hverdict.catalog_code_eq_zero_iff.mpr ⟨catalog, hload⟩,
    (hverdict.of_loads catalog hload).1.mpr hfail⟩

end CommandLine

end OutlineLint

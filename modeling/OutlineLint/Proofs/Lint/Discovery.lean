import OutlineLint.Proofs.Catalog.Selection
import OutlineLint.Proofs.FileTree.Listing
import OutlineLint.Proofs.Lint.Places
import OutlineLint.Proofs.Text.Utf8

/-!
# Discovered artifacts

The artifacts of a run over a file tree should be all files below the output directory whose names
end as the catalog says. They are these files, as long as their names are texts and their paths are
short enough to be used (`artifacts_lint_enumerate`). A file with a name that is no text is passed
over, and nothing is said about it (`not_listsNamed_name_no_text`).
-/

namespace OutlineLint

/-! ### Names -/

/-- The last name of the path ends, in its bytes, with the file name of an entry. -/
def Catalog.Names (catalog : Catalog) (path : Path) : Prop :=
  ∃ entry ∈ catalog.entries, ∃ name, path.fileName? = some name ∧
    Text.bytes entry.fileName <:+ name

/-- The last name of the path is a text. -/
def Path.HasTextName (path : Path) : Prop := ∃ text, path.fileName? = some (Text.bytes text)

lemma Catalog.isSome_entryFor?_iff {catalog : Catalog} {name : String} :
    (catalog.entryFor? name).isSome ↔
      ∃ entry ∈ catalog.entries, Text.bytes entry.fileName <:+ Text.bytes name := by
  rw [entryFor?, List.find?_isSome]
  exact exists_congr fun entry => and_congr_right fun _ =>
    endsWith_fileName_iff.trans Text.bytes_suffix_iff.symm

/-- A file belongs to an entry if its name ends so and is a text. -/
lemma Catalog.isSome_entryForPath?_iff {catalog : Catalog} {path : Path} :
    (catalog.entryForPath? path).isSome ↔ catalog.Names path ∧ path.HasTextName := by
  constructor
  · intro h
    obtain ⟨entry, hentry⟩ := Option.isSome_iff_exists.mp h
    obtain ⟨text, htext, hfor⟩ := Option.bind_eq_some_iff.mp hentry
    obtain ⟨name, hname, hof⟩ := Option.bind_eq_some_iff.mp htext
    have hbytes := Text.bytes_of_ofBytes? hof
    obtain ⟨entry, hmem, hends⟩ := isSome_entryFor?_iff.mp (Option.isSome_iff_exists.mpr ⟨_, hfor⟩)
    exact ⟨⟨entry, hmem, name, hname, hbytes ▸ hends⟩, text, hbytes ▸ hname⟩
  · rintro ⟨⟨entry, hmem, name, hname, hends⟩, text, htext⟩
    rw [htext, Option.some.injEq] at hname
    rw [entryForPath?_eq_entryFor? htext]
    exact isSome_entryFor?_iff.mpr ⟨entry, hmem, hname ▸ hends⟩

namespace FileTree

variable {tree : FileTree} {root path p : Path}

/-! ### Reachable files -/

/-- The path leads, as it is seen from the root, to a file below the directory to which another path
leads, over real directories only. -/
def IsReachable (tree : FileTree) (root path p : Path) : Prop :=
  ∃ place entries names, tree.resolve (root.join path) = .ok place ∧
    tree.entriesAt? place = some entries ∧ tree.IsFileBelow place names ∧
    ((root.join path).descend names).below? root = some p

lemma entries?_eq_some_iff {entries : Entries} : tree.entries? path = some entries ↔
    ∃ place, tree.resolve path = .ok place ∧ tree.entriesAt? place = some entries := by
  rw [entries?, find?]
  cases tree.resolve path with
  | error fault => simp [Except.toOption]
  | ok place => simp [Except.toOption, entriesAt?]

/-- All reachable files are listed, if no directory on the way has too long a path. -/
lemma exists_enumerates_isReachable (hproper : tree.Proper) (hrelative : path.isAbsolute = false)
    (hshort : ∀ p ∈ tree.visited (root.join path), p.bytes.length ≤ maxPath) :
    ∃ files, tree.filesFrom root path = .ok files ∧
      Path.Enumerates (tree.IsReachable root path) files := by
  cases hentries : tree.entries? (root.join path) with
  | none =>
    refine ⟨[], filesFrom_of_entries?_eq_none hentries, fun p => ?_, .nil⟩
    have hnot : ¬ tree.IsReachable root path p := by
      rintro ⟨place, entries, -, hplace, hbelow, -⟩
      rw [entries?_eq_some_iff.mpr ⟨place, hplace, hbelow⟩] at hentries
      cases hentries
    simp [hnot]
  | some entries =>
    obtain ⟨place, hplace, hentries⟩ := entries?_eq_some_iff.mp hentries
    obtain ⟨files, hfiles, hlisting⟩ := exists_isListing hproper hrelative hplace hentries hshort
    refine ⟨files, hfiles, fun p => hlisting.mem_iff.trans ⟨?_, ?_⟩, hlisting.increasing⟩
    · rintro ⟨names, hfile, hbelow⟩
      exact ⟨place, entries, names, hplace, hentries, hfile, hbelow⟩
    · rintro ⟨place', -, names, hplace', -, hfile, hbelow⟩
      rw [hplace, Except.ok.injEq] at hplace'
      exact ⟨names, hplace' ▸ hfile, hbelow⟩

lemma exists_filesFrom_eq_error
    (hlong : ¬ ∀ p ∈ tree.visited (root.join path), p.bytes.length ≤ maxPath) :
    ∃ error, tree.filesFrom root path = .error error := by
  rw [filesFrom]
  cases hfind : (tree.visited (root.join path)).find?
      (fun directory => maxPath < directory.bytes.length) with
  | none => exact absurd (by simpa [List.find?_eq_none] using hfind) hlong
  | some directory => exact ⟨_, rfl⟩

/-- A reachable file is there for whoever can use its path. -/
lemma IsReachable.isPresent_iff (hproper : tree.Proper) (hrelative : path.isAbsolute = false)
    (h : tree.IsReachable root path p) :
    tree.isPresent (root.join p) = true ↔ (root.join p).bytes.length ≤ maxPath := by
  obtain ⟨place, entries, names, hplace, hentries, hfile, hbelow⟩ := h
  constructor
  · intro hpresent
    rw [isPresent, find?] at hpresent
    cases hresolve : tree.resolve (root.join p) with
    | error fault => simp [hresolve, Except.toOption] at hpresent
    | ok place => exact (resolve_eq_ok_iff.mp hresolve).2.2.1
  · intro hlength
    have hresolve := hfile.resolve_eq hproper hentries hrelative hplace hbelow hlength
    obtain ⟨content, hcontent⟩ := hfile
    simp [isPresent, find?, hresolve, Except.toOption, hcontent]

end FileTree

namespace Lint

variable {tree : FileTree} {repo : Repository} {catalog : Catalog} {root p : Path}
  {files : List Path}

/-! ### Artifacts -/

/-- The artifacts of the report are all reachable files whose names end as the catalog says, in the
order of their paths. -/
def ListsNamed (tree : FileTree) (root : Path) (catalog : Catalog) (report : Report) : Prop :=
  ∃ named, Path.Enumerates
      (fun p => tree.IsReachable root catalog.outputRoot p ∧ catalog.Names p) named ∧
    report.artifacts = named.map Path.display

/-- The path can be looked at: its last name is a text, and from the root it is not too long. -/
def IsUsable (root p : Path) : Prop :=
  p.HasTextName ∧ (root.join p).bytes.length ≤ FileTree.maxPath

lemma examined_eq (hfiles : repo.files catalog.outputRoot = .ok files) :
    examined repo catalog = (files.filter fun p =>
      (catalog.entryForPath? p).isSome && repo.isPresent p).map Path.display := by
  simp only [examined, hfiles, shown, Catalog.matched]
  clear hfiles
  induction files with
  | nil => rfl
  | cons p rest ih =>
    rw [List.filterMap_cons, List.filter_cons]
    cases hentry : catalog.entryForPath? p with
    | none => simpa using ih
    | some entry =>
      rw [Option.map_some, List.filter_cons]
      cases hpresent : repo.isPresent p with
      | false => simpa [hpresent] using ih
      | true => simpa [hpresent] using ih

/-- A run looks at all reachable files whose names end as the catalog says and which can be looked
at. -/
lemma exists_artifacts_lint_eq (hproper : tree.Proper)
    (hrelative : catalog.outputRoot.isAbsolute = false) (strictness : Strictness)
    (hshort : ∀ p ∈ tree.visited (root.join catalog.outputRoot),
      p.bytes.length ≤ FileTree.maxPath) :
    ∃ seen, Path.Enumerates (fun p => (tree.IsReachable root catalog.outputRoot p ∧
        catalog.Names p) ∧ IsUsable root p) seen ∧
      (lint (tree.repository root) catalog strictness).artifacts = seen.map Path.display := by
  obtain ⟨files, hfiles, hall⟩ :=
    FileTree.exists_enumerates_isReachable hproper hrelative hshort
  refine ⟨_, (hall.filter _).congr fun p => ?_, artifacts_lint.trans (examined_eq hfiles)⟩
  rw [Bool.and_eq_true, Catalog.isSome_entryForPath?_iff, IsUsable, and_assoc, and_assoc]
  refine and_congr_right fun hreachable => and_congr_right fun _ => and_congr_right fun _ => ?_
  exact hreachable.isPresent_iff hproper hrelative

/-- The artifacts are all files that they should be if each of these can be looked at. -/
lemma listsNamed_lint_iff (hproper : tree.Proper)
    (hrelative : catalog.outputRoot.isAbsolute = false) (strictness : Strictness)
    (hshort : ∀ p ∈ tree.visited (root.join catalog.outputRoot),
      p.bytes.length ≤ FileTree.maxPath) :
    ListsNamed tree root catalog (lint (tree.repository root) catalog strictness) ↔
      ∀ p, tree.IsReachable root catalog.outputRoot p → catalog.Names p → IsUsable root p := by
  obtain ⟨seen, hseen, hartifacts⟩ :=
    exists_artifacts_lint_eq hproper hrelative strictness hshort
  constructor
  · rintro ⟨named, hnamed, hlisted⟩ p hreachable hnames
    have hlength : named.length = seen.length := by
      rw [hartifacts] at hlisted
      simpa using (congrArg List.length hlisted).symm
    exact (hnamed.mem_of_length_eq hseen (fun p hp => hp.1) hlength ⟨hreachable, hnames⟩).2
  · intro husable
    refine ⟨seen, hseen.congr fun p => ?_, hartifacts⟩
    exact and_iff_left_of_imp fun hp => husable p hp.1 hp.2

/-- The scan of the output directory fails, and this is reported, or all files below it whose names
end as the catalog says are looked at, in the order of their paths, but for those with a name that
is no text or with a path that is too long. -/
theorem artifacts_lint_enumerate (root : Path) (hproper : tree.Proper)
    (hrelative : catalog.outputRoot.isAbsolute = false) (strictness : Strictness) :
    let report := lint (tree.repository root) catalog strictness
    let short := ∀ p ∈ tree.visited (root.join catalog.outputRoot),
      p.bytes.length ≤ FileTree.maxPath
    (¬ short → report.artifacts = [] ∧
      ∃ error, scanFailed catalog.outputRoot error ∈ report.diagnostics) ∧
    (short →
      (∃ seen, Path.Enumerates (fun p => (tree.IsReachable root catalog.outputRoot p ∧
          catalog.Names p) ∧ IsUsable root p) seen ∧ report.artifacts = seen.map Path.display) ∧
      (ListsNamed tree root catalog report ↔
        ∀ p, tree.IsReachable root catalog.outputRoot p → catalog.Names p → IsUsable root p)) := by
  intro report short
  refine ⟨fun hlong => ?_, fun hshort => ⟨?_, ?_⟩⟩
  · obtain ⟨error, herror⟩ := FileTree.exists_filesFrom_eq_error hlong
    have hfiles : (tree.repository root).files catalog.outputRoot = .error error := herror
    refine ⟨?_, error, ?_⟩
    · rw [artifacts_lint, examined, hfiles]
    · rw [diagnostics_lint]
      exact List.mem_append_right _ (mem_outputFindings_iff.mpr (.inl ⟨error, hfiles, rfl⟩))
  · exact exists_artifacts_lint_eq hproper hrelative strictness hshort
  · exact listsNamed_lint_iff hproper hrelative strictness hshort

/-- An artifact is looked at that stands beside a link, below a directory which is itself reached
over one. -/
theorem artifacts_lint_enumerate_over_link :
    let schema : Schema := ⟨["## A"], [], by constructor <;> decide⟩
    let catalog : Catalog :=
      ⟨.ofString "out/.", .ofString "s.md",
        [⟨⟨"plan", by decide⟩, "plan.md", .ofString "t.md", none, schema⟩]⟩
    let name (s : String) : Path.Name := Text.bytes s
    let below : FileTree.Entries :=
      [(name "x-plan.md", .file (name "## A")), (name "plan.md", .link (.ofString "x-plan.md"))]
    let entries : FileTree.Entries := [(name "sub", .directory below)]
    let tree : FileTree :=
      ⟨[(name "repo", .directory [(name "out", .link (.ofString "../real"))]),
        (name "real", .directory entries)], [name "repo"]⟩
    let root := Path.ofString "."
    tree.Proper ∧ catalog.outputRoot.isAbsolute = false ∧
      "out/sub/x-plan.md" ∈ (lint (tree.repository root) catalog .relaxed).artifacts := by
  intro schema catalog name below entries tree root
  have hbelow : (FileTree.Node.directory below).Proper :=
    .directory (by decide) (by decide)
      (List.forall_mem_cons.mpr ⟨.file _, List.forall_mem_singleton.mpr (.link _)⟩)
  have hentries : (FileTree.Node.directory entries).Proper :=
    .directory (by decide) (by decide) (List.forall_mem_singleton.mpr hbelow)
  have hproper : tree.Proper := by
    refine .directory (by decide) (by decide) (List.forall_mem_cons.mpr ⟨?_, ?_⟩)
    · exact .directory (by decide) (by decide) (List.forall_mem_singleton.mpr (.link _))
    · exact List.forall_mem_singleton.mpr hentries
  have hrelative : catalog.outputRoot.isAbsolute = false := by decide
  have hshort : ∀ p ∈ tree.visited (root.join catalog.outputRoot),
      p.bytes.length ≤ FileTree.maxPath := by decide +kernel
  refine ⟨hproper, hrelative, ?_⟩
  obtain ⟨⟨seen, hseen, hartifacts⟩, -⟩ :=
    (artifacts_lint_enumerate root hproper hrelative .relaxed).2 hshort
  rw [hartifacts, List.mem_map]
  refine ⟨.ofString "out/./sub/x-plan.md", (hseen.mem_iff _).mpr ⟨⟨?_, ?_⟩, ?_⟩, by decide +kernel⟩
  · exact ⟨[name "real"], entries, [name "sub", name "x-plan.md"], by rfl, by rfl, ⟨_, rfl⟩,
      by decide +kernel⟩
  · exact ⟨_, List.mem_cons_self, name "x-plan.md", by decide +kernel, by decide⟩
  · exact ⟨⟨"x-plan.md", by decide +kernel⟩, by decide +kernel⟩

/-- The name of the only file below the output directory ends as the catalog says, but has a byte
that is in no text. The file is not looked at, and no diagnostic is about it. -/
theorem not_listsNamed_name_no_text :
    let text := "\n".intercalate
      ["output_root = 'out'", "standards_doc = 's.md'", "[[artifacts]]", "kind = 'plan'",
        "file_name = 'plan.md'", "template = 't.md'", "required = ['## A']"]
    let schema : Schema := ⟨["## A"], [], by constructor <;> decide⟩
    let catalog : Catalog :=
      ⟨.ofString "out", .ofString "s.md",
        [⟨⟨"plan", by decide⟩, "plan.md", .ofString "t.md", none, schema⟩]⟩
    let file (name : Path.Name) (text : String) : Path.Name × FileTree.Node :=
      (name, .file (Text.bytes text))
    let name : Path.Name := 0xFF :: Text.bytes "-plan.md"
    let tree : FileTree :=
      ⟨[file (Text.bytes "t.md") "## A", file (Text.bytes "s.md") ".template.md",
        (Text.bytes "out", .directory [file name "## A"])], []⟩
    let root := Path.ofString "."
    let found : Path := ⟨Text.bytes "out/" ++ name⟩
    let report := lint (tree.repository root) catalog .relaxed
    Catalog.parse text = .ok catalog ∧ tree.Proper ∧ catalog.outputRoot.isAbsolute = false ∧
      tree.IsReachable root catalog.outputRoot found ∧ catalog.Names found ∧
      report.artifacts = [] ∧ (∀ d ∈ report.diagnostics, d.path = none) ∧
      ¬ ListsNamed tree root catalog report := by
  intro text schema catalog file name tree root found report
  have hparse : Catalog.parse text = .ok catalog := by
    subst text
    rw [Catalog.parse, Catalog.Sheet.parse, Toml.parse?, String.toList_intercalate]
    decide +kernel
  have hout : (FileTree.Node.directory [file name "## A"]).Proper :=
    .directory (by decide) (by decide) (List.forall_mem_singleton.mpr (.file _))
  have hproper : tree.Proper := by
    refine .directory (by decide) (by decide) (List.forall_mem_cons.mpr ⟨.file _, ?_⟩)
    exact List.forall_mem_cons.mpr ⟨.file _, List.forall_mem_singleton.mpr hout⟩
  have hrelative : catalog.outputRoot.isAbsolute = false := by decide
  have hreachable : tree.IsReachable root catalog.outputRoot found :=
    ⟨[Text.bytes "out"], _, [name], by rfl, by rfl, ⟨_, rfl⟩, by decide +kernel⟩
  have hnames : catalog.Names found :=
    ⟨_, List.mem_cons_self, name, by decide +kernel, by decide⟩
  have hshort : ∀ p ∈ tree.visited (root.join catalog.outputRoot),
      p.bytes.length ≤ FileTree.maxPath := by decide +kernel
  have hfiles : tree.filesFrom root catalog.outputRoot = .ok [found] := by
    have hvisited : (tree.visited (root.join catalog.outputRoot)).find?
        (fun directory => FileTree.maxPath < directory.bytes.length) = none := by
      decide +kernel
    have hwalk : (tree.walk (root.join catalog.outputRoot)).mapM (FileTree.seenFrom root) =
        .ok [found] := by
      decide +kernel
    simp only [FileTree.filesFrom, hvisited, hwalk, Except.map, FileTree.ordered_singleton]
  -- sorting is not evaluated, so the list of files is put in for it
  have hlint : report =
      lint { tree.repository root with files := fun _ => .ok [found] } catalog .relaxed := by
    subst report
    simp only [lint, Lint.checkArtifacts, FileTree.repository]
    rw [hfiles]
    rfl
  refine ⟨hparse, hproper, hrelative, hreachable, hnames, ?_, ?_, fun hlists => ?_⟩
  · rw [hlint]
    decide +kernel
  · rw [hlint]
    decide +kernel
  · have husable := (listsNamed_lint_iff hproper hrelative .relaxed hshort).mp hlists
    obtain ⟨⟨text, htext⟩, -⟩ := husable found hreachable hnames
    have hname : found.fileName? = some name := by decide +kernel
    rw [hname, Option.some.injEq] at htext
    have hno : Text.ofBytes? name = none := by decide +kernel
    rw [htext, Text.ofBytes?_bytes] at hno
    cases hno

end Lint

end OutlineLint

import OutlineLint.FileTree.Repository
import OutlineLint.Proofs.FileTree.Files
import OutlineLint.Proofs.FileTree.Follow
import OutlineLint.Proofs.Path.Order

/-!
# Listed files

The files below a directory are listed completely and as they are seen from the root, strictly in
the order of their paths (`exists_isListing`). Each of them is found again from the root by its path
(`IsFileBelow.resolve_eq`). A listing is known by what stands at each place, so the order in which
directories give their entries does not matter (`IsListing.eq_of_faces`).
-/

namespace OutlineLint.FileTree

open OutlineLint.Path (Name Precedes)

variable {tree tree' : FileTree} {root path p : Path} {place : Place} {entries : Entries}
  {names : List Name} {files files' : List Path}

/-- A file stands below a place. The names on the way down to it are, but for the last, those of
directories. -/
def IsFileBelow (tree : FileTree) (place : Place) (names : List Name) : Prop :=
  ∃ content, tree.at? (place ++ names) = some (.file content)

/-- The list has, as it is seen from the root, each file below the directory at a place to which a
path leads, and nothing else, strictly in the order of paths. -/
structure IsListing (tree : FileTree) (root path : Path) (place : Place) (files : List Path) :
    Prop where
  complete : ∀ names, tree.IsFileBelow place names →
    ∃ p ∈ files, ((root.join path).descend names).below? root = some p
  sound : ∀ p ∈ files, ∃ names, tree.IsFileBelow place names ∧
    ((root.join path).descend names).below? root = some p
  increasing : files.Pairwise Precedes

lemma at?_of_entriesAt? (h : tree.entriesAt? place = some entries) :
    tree.at? place = some (.directory entries) := by
  obtain ⟨node, hnode, hentries⟩ := Option.bind_eq_some_iff.mp h
  cases node with
  | directory below =>
    cases hentries
    exact hnode
  | file | link | socket => cases hentries

/-! ### Files below a directory -/

section Names

variable (hproper : tree.Proper) (hentries : tree.entriesAt? place = some entries)

lemma at?_append_of_entriesAt? (hentries : tree.entriesAt? place = some entries)
    (names : List Name) :
    tree.at? (place ++ names) = (Node.directory entries).at? names := by
  rw [at?, Node.at?_append, ← at?, at?_of_entriesAt? hentries, Option.bind_some]

include hproper hentries

lemma proper_of_entriesAt? : (Node.directory entries).Proper :=
  (Node.Proper.at? hproper (at?_of_entriesAt? hentries)).1

lemma IsFileBelow.isEntryName (h : tree.IsFileBelow place names) :
    ∀ name ∈ names, IsEntryName name := by
  obtain ⟨content, h⟩ := h
  rw [at?_append_of_entriesAt? hentries] at h
  exact ((proper_of_entriesAt? hproper hentries).at? h).2

lemma IsFileBelow.isName (h : tree.IsFileBelow place names) : ∀ name ∈ names, Path.IsName name :=
  fun name hname => (h.isEntryName hproper hentries name hname).toIsName

omit hproper in
lemma IsFileBelow.ne_nil (h : tree.IsFileBelow place names) : names ≠ [] := by
  rintro rfl
  obtain ⟨content, h⟩ := h
  rw [at?_append_of_entriesAt? hentries] at h
  cases h

/-- The path of a file below a directory, as it is seen from the root. -/
lemma IsFileBelow.below?_eq (hrelative : path.isAbsolute = false)
    (h : tree.IsFileBelow place names) :
    ((root.join path).descend names).below? root = some (root.remainder path names) :=
  Path.below?_descend hrelative (h.isName hproper hentries) (h.ne_nil hentries)

/-- A file below a directory is found by its path as seen from the root. -/
lemma IsFileBelow.resolve_eq (hrelative : path.isAbsolute = false)
    (hplace : tree.resolve (root.join path) = .ok place) (h : tree.IsFileBelow place names)
    (hbelow : ((root.join path).descend names).below? root = some p)
    (hlength : (root.join p).bytes.length ≤ maxPath) :
    tree.resolve (root.join p) = .ok (place ++ names) := by
  rw [h.below?_eq hproper hentries hrelative, Option.some.injEq] at hbelow
  obtain ⟨content, hfound⟩ := h
  subst hbelow
  exact resolve_join_remainder hrelative (IsFileBelow.isEntryName hproper hentries ⟨_, hfound⟩)
    (IsFileBelow.ne_nil hentries ⟨_, hfound⟩) hplace hfound (fun _ => nofun) hlength

end Names

/-! ### The walk -/

section Walk

variable (hproper : tree.Proper) (hplace : tree.resolve path = .ok place)
  (hentries : tree.entriesAt? place = some entries)

include hplace hentries

lemma find?_eq_directory : tree.find? path = some (.directory entries) := by
  rw [find?, hplace]
  exact at?_of_entriesAt? hentries

include hproper

lemma mem_walk_iff :
    p ∈ tree.walk path ↔ ∃ names, tree.IsFileBelow place names ∧ p = path.descend names := by
  have hwalk : tree.walk path = (Node.directory entries).files path := by
    rw [walk, entries?, find?_eq_directory hplace hentries, Node.files]
    rfl
  rw [hwalk, mem_files_iff (proper_of_entriesAt? hproper hentries)]
  simp only [IsFileBelow, at?_append_of_entriesAt? hentries]

lemma mem_visited_iff : p ∈ tree.visited path ↔
    ∃ names, (∃ below, tree.at? (place ++ names) = some (.directory below)) ∧
      p = path.descend names := by
  have hvisited : tree.visited path = (Node.directory entries).directories path := by
    rw [visited, find?_eq_directory hplace hentries]
  rw [hvisited, mem_directories_iff (proper_of_entriesAt? hproper hentries)]
  simp only [at?_append_of_entriesAt? hentries]

end Walk

/-! ### Listings -/

lemma IsListing.mem_iff (h : tree.IsListing root path place files) : p ∈ files ↔
    ∃ names, tree.IsFileBelow place names ∧
      ((root.join path).descend names).below? root = some p := by
  constructor
  · exact h.sound p
  · rintro ⟨names, hfile, hbelow⟩
    obtain ⟨q, hq, hbelow'⟩ := h.complete names hfile
    rw [hbelow, Option.some.injEq] at hbelow'
    exact hbelow' ▸ hq

lemma isFileBelow_congr (h : ∀ place, tree.faceAt? place = tree'.faceAt? place) :
    tree.IsFileBelow place names ↔ tree'.IsFileBelow place names := by
  simp only [IsFileBelow, ← faceAt?_eq_some_file_iff, h]

/-- What stands at each place decides about a listing. -/
lemma IsListing.eq_of_faces (hfaces : ∀ place, tree.faceAt? place = tree'.faceAt? place)
    (h : tree.IsListing root path place files) (h' : tree'.IsListing root path place files') :
    files = files' := by
  refine Path.eq_of_pairwise_precedes h.increasing h'.increasing fun p => ?_
  rw [h.mem_iff, h'.mem_iff]
  exact exists_congr fun names => and_congr_left fun _ => isFileBelow_congr hfaces

lemma mapM_seenFrom {paths : List Path} (h : ∀ p ∈ paths, ∃ q, p.below? root = some q) :
    paths.mapM (seenFrom root) = .ok (paths.map fun p => (p.below? root).getD p) := by
  induction paths with
  | nil => rfl
  | cons p rest ih =>
    rw [List.forall_mem_cons] at h
    obtain ⟨q, hq⟩ := h.1
    rw [List.mapM_cons, seenFrom, hq, ih h.2]
    simp [hq]
    rfl

section Directory

variable (hproper : tree.Proper) (hrelative : path.isAbsolute = false)
  (hplace : tree.resolve (root.join path) = .ok place)
  (hentries : tree.entriesAt? place = some entries)

include hproper hrelative hplace hentries

lemma mem_map_below?_walk_iff :
    p ∈ (tree.walk (root.join path)).map (fun p => (p.below? root).getD p) ↔
      ∃ names, tree.IsFileBelow place names ∧ root.remainder path names = p := by
  rw [List.mem_map]
  constructor
  · rintro ⟨q, hq, rfl⟩
    obtain ⟨names, hfile, rfl⟩ := (mem_walk_iff hproper hplace hentries).mp hq
    exact ⟨names, hfile, by rw [hfile.below?_eq hproper hentries hrelative, Option.getD_some]⟩
  · rintro ⟨names, hfile, rfl⟩
    refine ⟨_, (mem_walk_iff hproper hplace hentries).mpr ⟨names, hfile, rfl⟩, ?_⟩
    rw [hfile.below?_eq hproper hentries hrelative, Option.getD_some]

/-- Other names lead to other components, so no path is dropped as a repeated one. -/
lemma mem_ordered_below?_walk_iff :
    p ∈ ordered ((tree.walk (root.join path)).map fun p => (p.below? root).getD p) ↔
      ∃ names, tree.IsFileBelow place names ∧ root.remainder path names = p := by
  rw [mem_ordered_iff, mem_map_below?_walk_iff hproper hrelative hplace hentries]
  intro p hp q hq hsame
  rw [mem_map_below?_walk_iff hproper hrelative hplace hentries] at hp hq
  obtain ⟨names, hfile, rfl⟩ := hp
  obtain ⟨names', hfile', rfl⟩ := hq
  have hnames := Path.components_remainder hrelative (hfile.isName hproper hentries)
    (hfile.ne_nil hentries) root
  have hnames' := Path.components_remainder hrelative (hfile'.isName hproper hentries)
    (hfile'.ne_nil hentries) root
  rw [hnames, hnames', List.append_cancel_left_eq,
    List.map_inj_right fun _ _ => Path.Component.name.inj] at hsame
  rw [hsame]

/-- The files are listed if no directory on the way has too long a path. -/
lemma exists_isListing (hshort : ∀ p ∈ tree.visited (root.join path), p.bytes.length ≤ maxPath) :
    ∃ files, tree.filesFrom root path = .ok files ∧ tree.IsListing root path place files := by
  have hfind : (tree.visited (root.join path)).find?
      (fun directory => maxPath < directory.bytes.length) = none := by
    simpa [List.find?_eq_none] using hshort
  have hseen := mapM_seenFrom fun p hp => by
    obtain ⟨names, hfile, rfl⟩ := (mem_walk_iff hproper hplace hentries).mp hp
    exact ⟨_, hfile.below?_eq hproper hentries hrelative⟩
  have hfiles : tree.filesFrom root path = .ok (ordered
      ((tree.walk (root.join path)).map fun p => (p.below? root).getD p)) := by
    simp only [filesFrom, hfind, hseen, Except.map]
  refine ⟨_, hfiles, ?_, ?_, pairwise_ordered _⟩
  · intro names hfile
    refine ⟨_, ?_, hfile.below?_eq hproper hentries hrelative⟩
    exact (mem_ordered_below?_walk_iff hproper hrelative hplace hentries).mpr ⟨names, hfile, rfl⟩
  · intro p hp
    obtain ⟨names, hfile, rfl⟩ :=
      (mem_ordered_below?_walk_iff hproper hrelative hplace hentries).mp hp
    exact ⟨names, hfile, hfile.below?_eq hproper hentries hrelative⟩

end Directory

/-- Where a path leads to no directory, no files are listed. -/
lemma filesFrom_of_entries?_eq_none (h : tree.entries? (root.join path) = none) :
    tree.filesFrom root path = .ok [] := by
  have hwalk : tree.walk (root.join path) = [] := by rw [walk, h]
  have hvisited : tree.visited (root.join path) = [] := by
    rw [entries?] at h
    rw [visited]
    cases hfind : tree.find? (root.join path) with
    | none => rfl
    | some node =>
      rw [hfind, Option.bind_some] at h
      cases node with
      | directory entries => cases h
      | file | link | socket => simp only [Node.directories]
  rw [filesFrom]
  simp only [hwalk, hvisited]
  simp [Except.map, pure, Except.pure, ordered, dropRepeated]

/-! ### The order of entries -/

lemma Reordered.faceAt?_eq (hproper : tree.Proper) (h : tree.Reordered tree') (place : Place) :
    tree.faceAt? place = tree'.faceAt? place :=
  h.top.at?_map_face hproper

lemma Reordered.filesFrom_eq (hproper : tree.Proper) (h : tree.Reordered tree')
    (hrelative : path.isAbsolute = false) (hplace : tree.resolve (root.join path) = .ok place)
    (hentries : tree.entriesAt? place = some entries)
    (hshort : ∀ p ∈ tree.visited (root.join path), p.bytes.length ≤ maxPath) :
    tree'.filesFrom root path = tree.filesFrom root path := by
  have hfaces := h.faceAt?_eq hproper
  have hproper' : tree'.Proper := Node.Proper.of_reordered hproper h.top
  have hplace' : tree'.resolve (root.join path) = .ok place := by
    rw [← resolve_congr hfaces h.workingDirectory_eq, hplace]
  obtain ⟨entries', hentries'⟩ : ∃ entries', tree'.entriesAt? place = some entries' := by
    rw [← Option.isSome_iff_exists, isSome_entriesAt?, ← hfaces, ← isSome_entriesAt?, hentries]
    rfl
  have hshort' : ∀ p ∈ tree'.visited (root.join path), p.bytes.length ≤ maxPath := by
    intro p hp
    obtain ⟨names, hbelow, rfl⟩ := (mem_visited_iff hproper' hplace' hentries').mp hp
    rw [← faceAt?_eq_some_directory_iff, ← hfaces, faceAt?_eq_some_directory_iff] at hbelow
    exact hshort _ ((mem_visited_iff hproper hplace hentries).mpr ⟨names, hbelow, rfl⟩)
  obtain ⟨files, hfiles, hlisting⟩ := exists_isListing hproper hrelative hplace hentries hshort
  obtain ⟨files', hfiles', hlisting'⟩ :=
    exists_isListing hproper' hrelative hplace' hentries' hshort'
  rw [hfiles, hfiles', hlisting.eq_of_faces hfaces hlisting']

/-- If no directory that a walk meets has too long a path, the files below a directory are listed,
these and no others, strictly in the order of their paths and whatever the order of entries is; and
each whose path is not too long is found again by its path as seen from the root. Below something
else no files are listed. -/
theorem filesFrom_lists_files (hproper : tree.Proper) (hrelative : path.isAbsolute = false) :
    (∀ place entries, tree.resolve (root.join path) = .ok place →
      tree.entriesAt? place = some entries →
      (∀ p ∈ tree.visited (root.join path), p.bytes.length ≤ maxPath) →
      ∃ files, tree.filesFrom root path = .ok files ∧ tree.IsListing root path place files ∧
        (∀ tree' : FileTree, tree.Reordered tree' → tree'.filesFrom root path = .ok files) ∧
        ∀ p ∈ files, (root.join p).bytes.length ≤ maxPath →
          ∃ names, tree.IsFileBelow place names ∧
            ((root.join path).descend names).below? root = some p ∧
            tree.resolve (root.join p) = .ok (place ++ names) ∧
            (tree.repository root).isPresent p = true) ∧
    (tree.entries? (root.join path) = none → tree.filesFrom root path = .ok []) := by
  refine ⟨fun place entries hplace hentries hshort => ?_, filesFrom_of_entries?_eq_none⟩
  obtain ⟨files, hfiles, hlisting⟩ := exists_isListing hproper hrelative hplace hentries hshort
  refine ⟨files, hfiles, hlisting, fun tree' hreordered => ?_, fun p hp hlength => ?_⟩
  · rw [hreordered.filesFrom_eq hproper hrelative hplace hentries hshort, hfiles]
  · obtain ⟨names, hfile, hbelow⟩ := hlisting.sound p hp
    have hresolve := hfile.resolve_eq hproper hentries hrelative hplace hbelow hlength
    refine ⟨names, hfile, hbelow, hresolve, ?_⟩
    obtain ⟨content, hcontent⟩ := hfile
    change tree.isPresent (root.join p) = true
    rw [isPresent, find?, hresolve]
    simp [Except.toOption, hcontent]

/-- A link that leads up again and a socket are passed over, and files are found in the directory
and below it. -/
theorem filesFrom_lists_files_beside_link :
    let name (s : String) : Name := Text.bytes s
    let below : Entries := [(name "b-plan.md", .file (name "## A"))]
    let entries : Entries :=
      [(name "up", .link (.ofString "..")), (name "pipe", .socket), (name "sub", .directory below),
        (name "a-plan.md", .file (name "## A"))]
    let tree : FileTree := ⟨[(name "out", .directory entries)], []⟩
    let root := Path.ofString "./"
    let path := Path.ofString "out/"
    tree.Proper ∧ path.isAbsolute = false ∧ tree.resolve (root.join path) = .ok [name "out"] ∧
      tree.entriesAt? [name "out"] = some entries ∧
      (∀ p ∈ tree.visited (root.join path), p.bytes.length ≤ maxPath) ∧
      ∃ files, tree.filesFrom root path = .ok files ∧ .ofString "out/a-plan.md" ∈ files ∧
        .ofString "out/sub/b-plan.md" ∈ files ∧ files.Pairwise Precedes ∧
        (tree.repository root).isPresent (.ofString "out/sub/b-plan.md") = true := by
  intro name below entries tree root path
  have hbelow : (Node.directory below).Proper :=
    .directory (by decide) (by decide) (List.forall_mem_singleton.mpr (.file _))
  have hentries : (Node.directory entries).Proper := by
    refine .directory (by decide) (by decide) ?_
    simp only [entries, List.forall_mem_cons]
    exact ⟨.link _, .socket, hbelow, .file _, fun _ => nofun⟩
  have hproper : tree.Proper :=
    .directory (by decide) (by decide) (List.forall_mem_singleton.mpr hentries)
  have hrelative : path.isAbsolute = false := by decide
  have hplace : tree.resolve (root.join path) = .ok [name "out"] := by rfl
  have hplaceEntries : tree.entriesAt? [name "out"] = some entries := by rfl
  have hshort : ∀ p ∈ tree.visited (root.join path), p.bytes.length ≤ maxPath := by
    decide +kernel
  refine ⟨hproper, hrelative, hplace, hplaceEntries, hshort, ?_⟩
  obtain ⟨files, hfiles, hlisting, -, hfound⟩ :=
    (filesFrom_lists_files hproper hrelative).1 _ _ hplace hplaceEntries hshort
  have hfirst : .ofString "out/a-plan.md" ∈ files :=
    hlisting.mem_iff.mpr ⟨[name "a-plan.md"], ⟨_, rfl⟩, by decide +kernel⟩
  have hsecond : .ofString "out/sub/b-plan.md" ∈ files :=
    hlisting.mem_iff.mpr ⟨[name "sub", name "b-plan.md"], ⟨_, rfl⟩, by decide +kernel⟩
  obtain ⟨-, -, -, -, hpresent⟩ := hfound _ hsecond (by decide +kernel)
  exact ⟨files, hfiles, hfirst, hsecond, hlisting.increasing, hpresent⟩

end OutlineLint.FileTree

import OutlineLint.FileTree.Walk
import OutlineLint.Proofs.FileTree.Proper

/-!
# The files and directories below a node

A traversal of a node takes what it wants and goes on with the entries of every directory. So in a
proper tree it takes the wanted nodes at all places, by paths that go down to these places
(`mem_traversal_iff`). Files and directories are collected by two such traversals.
-/

namespace OutlineLint.FileTree

open OutlineLint.Path (Name)

variable {node : Node} {entries : Entries} {path p : Path} {names : List Name}

/-- A node stands below itself, and what stands elsewhere below it stands below one of its
entries. -/
lemma Node.Proper.exists_at?_iff (h : node.Proper) {good : List Name → Node → Prop} :
    (∃ names found, node.at? names = some found ∧ good names found) ↔
      good [] node ∨ ∃ entries, node = .directory entries ∧ ∃ entry ∈ entries,
        ∃ names found, entry.2.at? names = some found ∧ good (entry.1 :: names) found := by
  constructor
  · rintro ⟨names, found, hfound, hgood⟩
    cases names with
    | nil =>
      cases hfound
      exact .inl hgood
    | cons name names =>
      rw [Node.at?_cons, Option.bind_eq_some_iff] at hfound
      obtain ⟨child, hchild, hfound⟩ := hfound
      cases h with
      | file | link | socket => cases hchild
      | @directory entries hnodup hnames hchildren =>
        have hmem := (lookup_eq_some_iff hnodup).mp hchild
        exact .inr ⟨entries, rfl, _, hmem, names, found, hfound, hgood⟩
  · rintro (hgood | ⟨entries, rfl, ⟨name, child⟩, hmem, names, found, hfound, hgood⟩)
    · exact ⟨[], node, rfl, hgood⟩
    · cases h with
      | directory hnodup hnames hchildren =>
        refine ⟨name :: names, found, ?_, hgood⟩
        have hchild := (lookup_eq_some_iff hnodup).mpr hmem
        rw [Node.at?_cons, Node.entries?, Option.bind_some, hchild, Option.bind_some, hfound]

/-- A traversal takes the wanted nodes at all places. -/
lemma mem_traversal_iff {collect : Path → Node → List Path} {wanted : Node → Prop}
    (hcollect : ∀ path node p, p ∈ collect path node ↔ (wanted node ∧ p = path) ∨
      ∃ entries, node = .directory entries ∧ ∃ entry ∈ entries,
        p ∈ collect (path.join ⟨entry.1⟩) entry.2)
    (h : node.Proper) : p ∈ collect path node ↔
      ∃ names found, node.at? names = some found ∧ wanted found ∧ p = path.descend names := by
  induction h generalizing path with
  | file content => rw [hcollect, (Node.Proper.file content).exists_at?_iff]; simp
  | link target => rw [hcollect, (Node.Proper.link target).exists_at?_iff]; simp
  | socket => rw [hcollect, Node.Proper.socket.exists_at?_iff]; simp
  | @directory entries hnodup hnames hchildren ih =>
    rw [hcollect, (Node.Proper.directory hnodup hnames hchildren).exists_at?_iff]
    refine or_congr Iff.rfl (exists_congr fun below => and_congr_right fun hbelow => ?_)
    cases hbelow
    exact exists_congr fun entry => and_congr_right fun hentry => ih entry hentry

/-! ### Files and directories -/

lemma mem_filesOfEntries_iff : p ∈ filesOfEntries path entries ↔
    ∃ entry ∈ entries, p ∈ entry.2.files (path.join ⟨entry.1⟩) := by
  induction entries with
  | nil => simp [filesOfEntries]
  | cons entry rest ih => simp [filesOfEntries, ih]

lemma mem_directoriesOfEntries_iff : p ∈ directoriesOfEntries path entries ↔
    ∃ entry ∈ entries, p ∈ entry.2.directories (path.join ⟨entry.1⟩) := by
  induction entries with
  | nil => simp [directoriesOfEntries]
  | cons entry rest ih => simp [directoriesOfEntries, ih]

lemma mem_files_iff (h : node.Proper) : p ∈ node.files path ↔
    ∃ names, (∃ content, node.at? names = some (.file content)) ∧ p = path.descend names := by
  have hcollect (path : Path) (node : Node) (p : Path) : p ∈ node.files path ↔
      ((∃ content, node = .file content) ∧ p = path) ∨
        ∃ entries, node = .directory entries ∧ ∃ entry ∈ entries,
          p ∈ entry.2.files (path.join ⟨entry.1⟩) := by
    cases node <;> simp [Node.files, mem_filesOfEntries_iff]
  simp only [mem_traversal_iff hcollect h]
  grind

lemma mem_directories_iff (h : node.Proper) : p ∈ node.directories path ↔
    ∃ names, (∃ entries, node.at? names = some (.directory entries)) ∧ p = path.descend names := by
  have hcollect (path : Path) (node : Node) (p : Path) : p ∈ node.directories path ↔
      ((∃ entries, node = .directory entries) ∧ p = path) ∨
        ∃ entries, node = .directory entries ∧ ∃ entry ∈ entries,
          p ∈ entry.2.directories (path.join ⟨entry.1⟩) := by
    cases node <;> simp [Node.directories, mem_directoriesOfEntries_iff]
  simp only [mem_traversal_iff hcollect h]
  grind

end OutlineLint.FileTree

import Mathlib.Data.List.Nodup
import OutlineLint.FileTree.Resolve
import OutlineLint.Proofs.Path.Join

/-!
# Proper file trees

In a proper file tree no directory has two entries of one name, and every name is one that a file
can have. What stands at a place of such a tree does not depend on the order of the entries
(`Node.Reordered.at?_map_face`).
-/

namespace OutlineLint.FileTree

open OutlineLint.Path (Name)

variable {node node' child found : Node} {entries entries' : Entries} {name : Name}
  {names : List Name}

/-! ### Names and entries -/

/-- A name that an entry of a directory can have. -/
structure IsEntryName (name : Name) : Prop extends Path.IsName name where
  zero_not_mem : 0 ∉ name
  length_le : name.length ≤ maxName

instance : DecidablePred IsEntryName := fun name =>
  decidable_of_iff (Path.IsName name ∧ 0 ∉ name ∧ name.length ≤ maxName)
    ⟨fun h => ⟨h.1, h.2.1, h.2.2⟩, fun h => ⟨h.1, h.2, h.3⟩⟩

/-- At and below the node, names are such as files can have and tell the entries of a directory
apart. -/
inductive Node.Proper : Node → Prop
  | file (content : List UInt8) : Proper (.file content)
  | link (target : Path) : Proper (.link target)
  | socket : Proper .socket
  | directory {entries : Entries} (hnodup : (entries.map Prod.fst).Nodup)
      (hnames : ∀ entry ∈ entries, IsEntryName entry.1)
      (hchildren : ∀ entry ∈ entries, Proper entry.2) : Proper (.directory entries)

/-- Throughout the tree, names are such as files can have and tell the entries of a directory
apart. -/
def Proper (tree : FileTree) : Prop := (Node.directory tree.top).Proper

lemma lookup_eq_some_iff (hnodup : (entries.map Prod.fst).Nodup) :
    entries.lookup name = some child ↔ (name, child) ∈ entries := by
  induction entries with
  | nil => simp
  | cons entry rest ih =>
    obtain ⟨other, first⟩ := entry
    rw [List.map_cons, List.nodup_cons] at hnodup
    by_cases hname : name = other
    · have hrest : (other, child) ∉ rest := fun h =>
        hnodup.1 (List.mem_map.mpr ⟨_, h, rfl⟩)
      simp [hname, hrest, eq_comm]
    · simp [List.lookup_cons, beq_eq_false_iff_ne.mpr hname, hname, ih hnodup.2]

lemma lookup_eq_none_iff : entries.lookup name = none ↔ name ∉ entries.map Prod.fst := by
  rw [List.lookup_eq_none_iff]
  simp only [List.mem_map, not_exists, not_and, bne_iff_ne]
  exact forall₂_congr fun _ _ => ne_comm

/-! ### Places -/

lemma Node.at?_cons (node : Node) (name : Name) (names : List Name) :
    node.at? (name :: names) = (node.entries?.bind (·.lookup name)).bind (·.at? names) := by
  rw [Node.at?]
  cases node.entries?.bind (·.lookup name) <;> rfl

lemma Node.at?_append (node : Node) (names more : List Name) :
    node.at? (names ++ more) = (node.at? names).bind (·.at? more) := by
  induction names generalizing node with
  | nil => rfl
  | cons name names ih =>
    rw [List.cons_append, Node.at?_cons, Node.at?_cons]
    cases node.entries?.bind (·.lookup name) with
    | none => rfl
    | some child => exact ih child

/-- What stands below a proper node is proper, and so are the names on the way. -/
lemma Node.Proper.at? (h : node.Proper) (hfound : node.at? names = some found) :
    found.Proper ∧ ∀ name ∈ names, IsEntryName name := by
  induction names generalizing node with
  | nil =>
    cases hfound
    exact ⟨h, by simp⟩
  | cons name names ih =>
    rw [Node.at?_cons, Option.bind_eq_some_iff] at hfound
    obtain ⟨child, hchild, hfound⟩ := hfound
    cases h with
    | file | link | socket => cases hchild
    | directory hnodup hnames hchildren =>
      have hmem := (lookup_eq_some_iff hnodup).mp hchild
      obtain ⟨hproper, hrest⟩ := ih (hchildren _ hmem) hfound
      exact ⟨hproper, List.forall_mem_cons.mpr ⟨hnames _ hmem, hrest⟩⟩

/-! ### The order of entries -/

/-- The nodes differ at most in the order in which directories list their entries. -/
inductive Node.Reordered : Node → Node → Prop
  | refl (node : Node) : Reordered node node
  | directory {entries entries' : Entries}
      (hnames : (entries.map Prod.fst).Perm (entries'.map Prod.fst))
      (hsame : ∀ name child child', (name, child) ∈ entries → (name, child') ∈ entries' →
        Reordered child child') : Reordered (.directory entries) (.directory entries')

/-- The trees differ at most in the order in which directories list their entries. -/
structure Reordered (tree tree' : FileTree) : Prop where
  top : (Node.directory tree.top).Reordered (.directory tree'.top)
  workingDirectory_eq : tree.workingDirectory = tree'.workingDirectory

/-- What a node is, apart from the entries of a directory. -/
def Node.face : Node → Node
  | .directory _ => .directory []
  | node => node

lemma Node.Proper.of_reordered (h : node.Proper) (hre : node.Reordered node') :
    node'.Proper := by
  induction h generalizing node' with
  | file content => cases hre; exact .file content
  | link target => cases hre; exact .link target
  | socket => cases hre; exact .socket
  | @directory entries hnodup hnames hchildren ih =>
    cases hre with
    | refl => exact .directory hnodup hnames hchildren
    | @directory _ entries' hperm hsame =>
      have hmem {name : Name} {child' : Node} (h : (name, child') ∈ entries') :
          ∃ child, (name, child) ∈ entries := by
        have hname := hperm.mem_iff.mpr (List.mem_map.mpr ⟨_, h, rfl⟩)
        simpa using hname
      refine .directory (hperm.nodup_iff.mp hnodup) ?_ ?_
      · rintro ⟨name, child'⟩ h
        obtain ⟨child, hchild⟩ := hmem h
        exact hnames (name, child) hchild
      · rintro ⟨name, child'⟩ h
        obtain ⟨child, hchild⟩ := hmem h
        exact ih _ hchild (hsame _ _ _ hchild h)

lemma Node.Reordered.at?_map_face (hre : node.Reordered node') (h : node.Proper) :
    (node.at? names).map Node.face = (node'.at? names).map Node.face := by
  induction names generalizing node node' with
  | nil => cases hre <;> rfl
  | cons name names ih =>
    have h' := h.of_reordered hre
    cases hre with
    | refl => rfl
    | @directory entries entries' hperm hsame =>
      rw [Node.at?_cons, Node.at?_cons]
      simp only [Node.entries?, Option.bind_some]
      cases h with
      | directory hnodup hnames hchildren =>
        cases h' with
        | directory hnodup' hnames' hchildren' =>
          cases hchild : entries.lookup name with
          | none =>
            have hchild' : entries'.lookup name = none := by
              rw [lookup_eq_none_iff] at hchild ⊢
              exact fun hmem => hchild (hperm.mem_iff.mpr hmem)
            rw [hchild']
          | some child =>
            have hmem := (lookup_eq_some_iff hnodup).mp hchild
            have hname := hperm.mem_iff.mp (List.mem_map.mpr ⟨_, hmem, rfl⟩)
            obtain ⟨child', hmem'⟩ : ∃ child', (name, child') ∈ entries' := by simpa using hname
            rw [(lookup_eq_some_iff hnodup').mpr hmem', Option.bind_some, Option.bind_some]
            exact ih (hsame _ _ _ hmem hmem') (hchildren _ hmem)

end OutlineLint.FileTree

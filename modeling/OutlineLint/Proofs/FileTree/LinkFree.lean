import OutlineLint.Proofs.FileTree.Follow

/-!
# Ways through trees without links

In a tree without symbolic links every step along a way is taken at once: either it is not allowed,
or it leads to the place that it says (`LinkFree.advance_cons_iff`). So a way that can be followed
leads to its endpoint, whatever stands in the tree (`LinkFree.eq_endpoint`), and a longer way is one
way after the other (`LinkFree.follow_append_iff`).
-/

namespace OutlineLint.FileTree

open OutlineLint.Path (Name)

variable {tree : FileTree} {jump : Place → List Step → Except Fault Place} {links : Nat}
  {start place : Place} {step : Step} {steps xs ys : List Step} {name : Name} {names : List Name}
  {node found : Node} {entries : Entries}

/-! ### Trees without links -/

/-- Neither the node nor anything below it is a symbolic link. -/
inductive Node.LinkFree : Node → Prop
  | file (content : List UInt8) : LinkFree (.file content)
  | socket : LinkFree .socket
  | directory {entries : Entries} (h : ∀ entry ∈ entries, LinkFree entry.2) :
      LinkFree (.directory entries)

/-- There is no symbolic link in the tree. -/
def LinkFree (tree : FileTree) : Prop := (Node.directory tree.top).LinkFree

lemma mem_of_lookup_eq_some (h : entries.lookup name = some found) : (name, found) ∈ entries := by
  induction entries with
  | nil => cases h
  | cons entry rest ih =>
    obtain ⟨other, first⟩ := entry
    by_cases hname : name = other
    · subst hname
      simp_all
    · rw [List.lookup_cons, beq_false_of_ne hname] at h
      exact List.mem_cons_of_mem _ (ih h)

lemma Node.LinkFree.at? (h : node.LinkFree) (hfound : node.at? names = some found) :
    found.LinkFree := by
  induction names generalizing node with
  | nil =>
    cases hfound
    exact h
  | cons name names ih =>
    rw [Node.at?_cons, Option.bind_eq_some_iff] at hfound
    obtain ⟨child, hchild, hfound⟩ := hfound
    cases h with
    | file | socket => cases hchild
    | directory hentries => exact ih (hentries _ (mem_of_lookup_eq_some hchild)) hfound

/-! ### Single steps -/

/-- Where a step leads. -/
def Step.apply (place : Place) : Step → Place
  | .stay => place
  | .up => place.dropLast
  | .down name => place ++ [name]

/-- The step can be taken from the place. -/
def Allows (tree : FileTree) (place : Place) : Step → Prop
  | .stay | .up => (tree.entriesAt? place).isSome
  | .down name => name.length ≤ maxName ∧ (tree.at? (place ++ [name])).isSome

/-- In a tree without links a way is followed step by step. -/
lemma LinkFree.advance_cons_iff (hlinks : tree.LinkFree) :
    tree.advance jump start (step :: steps) = .ok place ↔
      tree.Allows start step ∧ tree.advance jump (step.apply start) steps = .ok place := by
  rw [advance]
  cases hentries : tree.entriesAt? start with
  | none => cases step <;> simp [Allows, hentries, at?_concat]
  | some entries =>
    cases step with
    | stay => simp [Allows, hentries, Step.apply]
    | up => simp [Allows, hentries, Step.apply]
    | down name =>
      have hat : tree.at? (start ++ [name]) = entries.lookup name := by
        rw [at?_concat, hentries, Option.bind_some]
      simp only [Allows, Step.apply, hat]
      by_cases hlength : maxName < name.length
      · simp [hlength, Nat.not_le.mpr hlength]
      · simp only [if_neg hlength, Nat.not_lt.mp hlength, true_and]
        cases hchild : entries.lookup name with
        | none => simp
        | some child =>
          have hfree : child.LinkFree := Node.LinkFree.at? hlinks (hat.trans hchild)
          cases hfree with
          | file | socket | directory => simp

/-! ### Ways -/

/-- Where steps lead if each can be taken. -/
def endpoint (start : Place) (steps : List Step) : Place := steps.foldl Step.apply start

lemma endpoint_map_down (start : Place) (names : List Name) :
    endpoint start (names.map .down) = start ++ names := by
  induction names generalizing start with
  | nil => exact (List.append_nil start).symm
  | cons name names ih =>
    show endpoint (start ++ [name]) (names.map .down) = start ++ name :: names
    rw [ih, List.append_assoc, List.singleton_append]

lemma LinkFree.advance_append_iff (hlinks : tree.LinkFree) :
    tree.advance jump start (xs ++ ys) = .ok place ↔
      ∃ mid, tree.advance jump start xs = .ok mid ∧ tree.advance jump mid ys = .ok place := by
  induction xs generalizing start with
  | nil => simp [advance]
  | cons step xs ih =>
    rw [List.cons_append, hlinks.advance_cons_iff, ih]
    simp only [hlinks.advance_cons_iff, and_assoc, exists_and_left]

lemma LinkFree.advance_eq_ok (hlinks : tree.LinkFree)
    (h : tree.advance jump start steps = .ok place) :
    place = endpoint start steps ∧ ∀ name, .down name ∈ steps → name.length ≤ maxName := by
  induction steps generalizing start with
  | nil =>
    cases h
    exact ⟨rfl, by simp⟩
  | cons step steps ih =>
    obtain ⟨hallows, hrest⟩ := hlinks.advance_cons_iff.mp h
    obtain ⟨hplace, hnames⟩ := ih hrest
    refine ⟨hplace, ?_⟩
    intro name hname
    rcases List.mem_cons.mp hname with rfl | hname
    · exact hallows.1
    · exact hnames name hname

/-- The number of links that may be followed does not matter to the lemmas on single steps. -/
lemma exists_follow_eq_advance (tree : FileTree) (links : Nat) :
    ∃ jump, tree.follow links = tree.advance jump := by
  cases links with
  | zero => exact ⟨_, rfl⟩
  | succ links => exact ⟨_, rfl⟩

lemma LinkFree.follow_append_iff (hlinks : tree.LinkFree) :
    tree.follow links start (xs ++ ys) = .ok place ↔
      ∃ mid, tree.follow links start xs = .ok mid ∧ tree.follow links mid ys = .ok place := by
  obtain ⟨jump, hjump⟩ := tree.exists_follow_eq_advance links
  rw [hjump]
  exact hlinks.advance_append_iff

/-- A way that can be followed leads to its endpoint. -/
lemma LinkFree.eq_endpoint (hlinks : tree.LinkFree)
    (h : tree.follow links start steps = .ok place) : place = endpoint start steps := by
  obtain ⟨jump, hjump⟩ := tree.exists_follow_eq_advance links
  rw [hjump] at h
  exact (hlinks.advance_eq_ok h).1

lemma LinkFree.length_le_of_follow (hlinks : tree.LinkFree)
    (h : tree.follow links start steps = .ok place) (hname : .down name ∈ steps) :
    name.length ≤ maxName := by
  obtain ⟨jump, hjump⟩ := tree.exists_follow_eq_advance links
  rw [hjump] at h
  exact (hlinks.advance_eq_ok h).2 name hname

/-- A way with any step at all starts at a directory. -/
lemma isSome_entriesAt?_of_follow (h : tree.follow links start steps = .ok place)
    (hne : steps ≠ []) : (tree.entriesAt? start).isSome := by
  obtain ⟨jump, hjump⟩ := tree.exists_follow_eq_advance links
  obtain ⟨step, rest, rfl⟩ := List.exists_cons_of_ne_nil hne
  rw [hjump, advance] at h
  cases hentries : tree.entriesAt? start with
  | none => simp [hentries] at h
  | some entries => rfl

end OutlineLint.FileTree

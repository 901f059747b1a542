import OutlineLint.Proofs.FileTree.Proper

/-!
# Ways through a file tree

A way that leads to a place can be gone on with from there (`follow_append`), and going down over
real directories leads to what stands below (`follow_map_down`). A `.` on the way can be left out
(`follow_of_thins`). So if a path leads to a directory, what is below it is also found by what is
left of its path below the root, as seen from the root (`resolve_join_remainder`). What else
directories list, and in which order, has no influence on where a path leads (`resolve_congr`).
-/

namespace OutlineLint.FileTree

open OutlineLint.Path (Name slash)

variable {tree tree' : FileTree} {jump : Place → List Step → Except Fault Place} {links : Nat}
  {start place : Place} {steps xs ys : List Step} {names : List Name} {found : Node}

lemma at?_concat (tree : FileTree) (place : Place) (name : Name) :
    tree.at? (place ++ [name]) = (tree.entriesAt? place).bind (·.lookup name) := by
  rw [at?, Node.at?_append, ← at?, entriesAt?]
  cases tree.at? place with
  | none => rfl
  | some node =>
    rw [Option.bind_some, Option.bind_some, Node.at?_cons]
    cases node.entries?.bind (·.lookup name) <;> rfl

/-! ### Going on -/

lemma advance_append (links : Nat)
    (hjump : ∀ start xs place, jump start xs = .ok place →
      ∃ left, ∀ ys, jump start (xs ++ ys) = tree.follow left place ys)
    (hself : tree.follow links = tree.advance jump) (h : tree.advance jump start xs = .ok place) :
    ∃ left, ∀ ys, tree.advance jump start (xs ++ ys) = tree.follow left place ys := by
  induction xs generalizing start with
  | nil =>
    cases h
    exact ⟨links, fun ys => by rw [hself, List.nil_append]⟩
  | cons step rest ih =>
    simp only [List.cons_append, advance] at h ⊢
    cases hentries : tree.entriesAt? start with
    | none => simp [hentries] at h
    | some entries =>
      rw [hentries] at h
      cases step with
      | stay => exact ih h
      | up => exact ih h
      | down name =>
        simp only at h ⊢
        split at h
        case isTrue => cases h
        case isFalse hlength =>
          simp only [if_neg hlength]
          cases hchild : entries.lookup name with
          | none => simp [hchild] at h
          | some child =>
            rw [hchild] at h
            cases child with
            | link target =>
              -- the rest of the way is followed over one link less, together with the target's
              obtain ⟨left, hleft⟩ := hjump _ _ _ h
              exact ⟨left, fun ys => by rw [← hleft, List.append_assoc]⟩
            | file content => exact ih h
            | directory below => exact ih h
            | socket => exact ih h

/-- A way that leads to a place can be gone on with from there. -/
lemma follow_append (h : tree.follow links start xs = .ok place) :
    ∃ left, ∀ ys, tree.follow links start (xs ++ ys) = tree.follow left place ys := by
  induction links generalizing start xs place with
  | zero => exact advance_append 0 (fun _ _ _ h => by cases h) rfl h
  | succ links ih => exact advance_append (links + 1) (fun _ _ _ h => ih h) rfl h

/-! ### Going down -/

lemma advance_map_down (hnames : ∀ name ∈ names, name.length ≤ maxName)
    (h : tree.at? (place ++ names) = some found) (hfound : ∀ target, found ≠ .link target) :
    tree.advance jump place (names.map .down) = .ok (place ++ names) := by
  induction names generalizing place with
  | nil => simp [advance]
  | cons name names ih =>
    rw [List.forall_mem_cons] at hnames
    have hnext : tree.at? (place ++ [name] ++ names) = some found := by
      rw [List.append_assoc]
      exact h
    rw [at?, Node.at?_append, Option.bind_eq_some_iff] at h
    obtain ⟨node, hnode, h⟩ := h
    rw [Node.at?_cons, Option.bind_eq_some_iff] at h
    obtain ⟨child, hchild, h⟩ := h
    rw [Option.bind_eq_some_iff] at hchild
    obtain ⟨entries, hentries, hchild⟩ := hchild
    have hplace : tree.entriesAt? place = some entries := by
      rw [entriesAt?, at?, hnode, Option.bind_some, hentries]
    have hrest := ih hnames.2 hnext
    rw [List.append_assoc, List.singleton_append] at hrest
    simp only [List.map_cons, advance, hplace, hchild, if_neg (Nat.not_lt.mpr hnames.1)]
    cases child with
    | link target =>
      cases names with
      | nil =>
        cases h
        exact (hfound target rfl).elim
      | cons name names =>
        rw [Node.at?_cons] at h
        cases h
    | file content => exact hrest
    | directory below => exact hrest
    | socket => exact hrest

/-- Over real directories a way down leads to what stands below. -/
lemma follow_map_down (hnames : ∀ name ∈ names, name.length ≤ maxName)
    (h : tree.at? (place ++ names) = some found) (hfound : ∀ target, found ≠ .link target) :
    tree.follow links place (names.map .down) = .ok (place ++ names) := by
  cases links with
  | zero => exact advance_map_down hnames h hfound
  | succ links => exact advance_map_down hnames h hfound

/-! ### Leaving out what does not count -/

/-- The second way is the first one, but for steps that stay where they are. -/
inductive Thins : List Step → List Step → Prop
  | nil : Thins [] []
  | cons (step : Step) {xs ys : List Step} (h : Thins xs ys) : Thins (step :: xs) (step :: ys)
  | skip {xs ys : List Step} (h : Thins xs ys) : Thins (.stay :: xs) ys

lemma Thins.refl (xs : List Step) : Thins xs xs := by
  induction xs with
  | nil => exact .nil
  | cons step xs ih => exact .cons step ih

lemma Thins.append {xs' ys' : List Step} (h : Thins xs ys) (h' : Thins xs' ys') :
    Thins (xs ++ xs') (ys ++ ys') := by
  induction h with
  | nil => exact h'
  | cons step h ih => exact .cons step ih
  | skip h ih => exact .skip ih

lemma Thins.of_forall_eq_stay (h : ∀ step ∈ xs, step = .stay) : Thins xs [] := by
  induction xs with
  | nil => exact .nil
  | cons step xs ih =>
    rw [List.forall_mem_cons] at h
    rw [h.1]
    exact .skip (ih h.2)

lemma advance_of_thins
    (hjump : ∀ start xs ys place, Thins xs ys → jump start xs = .ok place →
      jump start ys = .ok place)
    (hthin : Thins xs ys) (h : tree.advance jump start xs = .ok place) :
    tree.advance jump start ys = .ok place := by
  induction hthin generalizing start with
  | nil => exact h
  | skip hthin ih =>
    simp only [advance] at h
    split at h
    · cases h
    · exact ih h
  | cons step hthin ih =>
    simp only [advance] at h ⊢
    split at h
    · cases h
    · rename_i entries hentries
      cases step with
      | stay => exact ih h
      | up => exact ih h
      | down name =>
        simp only at h ⊢
        split at h
        · cases h
        · rename_i hlength
          simp only [if_neg hlength]
          split at h
          · cases h
          · exact hjump _ _ _ _ ((Thins.refl _).append hthin) h
          · exact ih h

/-- A way that leads to a place does so without the steps that stay where they are. -/
lemma follow_of_thins (hthin : Thins xs ys) (h : tree.follow links start xs = .ok place) :
    tree.follow links start ys = .ok place := by
  induction links generalizing start xs ys place with
  | zero => exact advance_of_thins (fun _ _ _ _ _ h => by cases h) hthin h
  | succ links ih => exact advance_of_thins (fun _ _ _ _ hthin h => ih hthin h) hthin h

/-! ### The steps of a path -/

/-- The steps for pieces none of which has to be the last one. -/
def stepsWithin (pieces : List (List UInt8)) : List Step :=
  (pieces.filter fun piece => !piece.isEmpty).map stepsOfPieces.step

lemma stepsWithin_append (xs ys : List (List UInt8)) :
    stepsWithin (xs ++ ys) = stepsWithin xs ++ stepsWithin ys := by
  simp [stepsWithin]

lemma step_name {name : Name} (h : Path.IsName name) : stepsOfPieces.step name = .down name := by
  simp [stepsOfPieces.step, h.ne_nil, h.ne_dot, h.ne_dots]

lemma stepsWithin_names (h : ∀ name ∈ names, Path.IsName name) :
    stepsWithin names = names.map .down := by
  induction names with
  | nil => rfl
  | cons name names ih =>
    rw [List.forall_mem_cons] at h
    rw [List.map_cons, ← ih h.2, ← step_name h.1]
    simp [stepsWithin, h.1.ne_nil]

lemma thins_dropWhile_isVoid (pieces : List (List UInt8)) :
    Thins (stepsWithin pieces) (stepsWithin (pieces.dropWhile Path.isVoid)) := by
  induction pieces with
  | nil => exact .nil
  | cons piece rest ih =>
    by_cases hvoid : Path.isVoid piece = true
    · rw [List.dropWhile_cons_of_pos hvoid]
      rcases Path.isVoid_iff.mp hvoid with rfl | rfl
      · exact ih
      · exact .skip ih
    · rw [List.dropWhile_cons_of_neg hvoid]
      exact .refl _

lemma stepsOfPieces_concat (init : List (List UInt8)) (last : List UInt8) :
    stepsOfPieces (init ++ [last]) = stepsWithin init ++ [stepsOfPieces.step last] := by
  induction init with
  | nil => rfl
  | cons piece rest ih =>
    obtain ⟨next, more, hcons⟩ := List.exists_cons_of_ne_nil (l := rest ++ [last]) (by simp)
    rw [List.cons_append, hcons, stepsOfPieces, ← hcons, ih]
    · by_cases hpiece : piece = [] <;> simp [stepsWithin, hpiece]
    · simp

lemma steps_of_pieces_eq_append {path : Path} {pieces : List (List UInt8)}
    (hnames : ∀ name ∈ names, Path.IsName name) (hne : names ≠ [])
    (h : path.pieces = pieces ++ names) :
    FileTree.steps path = stepsWithin pieces ++ names.map .down := by
  obtain ⟨init, last, rfl⟩ := (List.eq_nil_or_concat names).resolve_left hne
  rw [List.concat_eq_append] at hnames h ⊢
  rw [FileTree.steps, h, ← List.append_assoc, stepsOfPieces_concat, stepsWithin_append,
    stepsWithin_names fun name h => hnames name (List.mem_append_left _ h),
    step_name (hnames last (by simp))]
  simp

lemma down_mem_steps {path : Path} {name : Name} (hname : Path.IsName name) (h : name ∈ path.pieces) :
    .down name ∈ FileTree.steps path := by
  obtain ⟨init, last, hpieces⟩ := (List.eq_nil_or_concat path.pieces).resolve_left
    (Path.pieces_ne_nil path)
  rw [List.concat_eq_append] at hpieces
  rw [FileTree.steps, hpieces, stepsOfPieces_concat, ← step_name hname]
  rw [hpieces] at h
  rcases List.mem_append.mp h with h | h
  · refine List.mem_append_left _ (List.mem_map_of_mem (List.mem_filter.mpr ⟨h, ?_⟩))
    simp [hname.ne_nil]
  · rw [List.mem_singleton.mp h]
    exact List.mem_append_right _ List.mem_cons_self

/-- A path has the steps for its stem, and stays at the end if it has a further piece. -/
lemma exists_steps_eq (path : Path) : ∃ stays, (∀ step ∈ stays, step = .stay) ∧
    FileTree.steps path = stepsWithin path.stem ++ stays := by
  obtain ⟨init, last, hpieces⟩ := (List.eq_nil_or_concat path.pieces).resolve_left
    (Path.pieces_ne_nil path)
  rw [FileTree.steps, Path.stem, hpieces, List.concat_eq_append, stepsOfPieces_concat]
  by_cases hlast : last = []
  · exact ⟨[.stay], by simp, by simp [hlast, stepsOfPieces.step]⟩
  · exact ⟨[], by simp, by simp [hlast, stepsWithin]⟩

lemma stepsOfPieces_append (pieces : List (List UInt8)) {more : List (List UInt8)}
    (hne : more ≠ []) :
    stepsOfPieces (pieces ++ more) = stepsWithin pieces ++ stepsOfPieces more := by
  obtain ⟨init, last, rfl⟩ := (List.eq_nil_or_concat more).resolve_left hne
  rw [List.concat_eq_append, ← List.append_assoc, stepsOfPieces_concat, stepsOfPieces_concat,
    stepsWithin_append, List.append_assoc]

lemma steps_join {root path : Path} (hrelative : path.isAbsolute = false) :
    FileTree.steps (root.join path) = stepsWithin root.stem ++ FileTree.steps path := by
  rw [FileTree.steps, Path.pieces_join hrelative, stepsOfPieces_append _ (Path.pieces_ne_nil path),
    FileTree.steps]

lemma steps_ne_nil (path : Path) : FileTree.steps path ≠ [] := by
  obtain ⟨init, last, hpieces⟩ := (List.eq_nil_or_concat path.pieces).resolve_left
    (Path.pieces_ne_nil path)
  rw [FileTree.steps, hpieces, List.concat_eq_append, stepsOfPieces_concat]
  simp

/-! ### Resolving -/

lemma origin_join {root path : Path} (hrelative : path.isAbsolute = false) :
    tree.origin (root.join path) = tree.origin root := by
  rw [origin, origin, Path.isAbsolute_join hrelative]

lemma resolve_eq_ok_iff {path : Path} : tree.resolve path = .ok place ↔
    0 ∉ path.bytes ∧ path.bytes ≠ [] ∧ path.bytes.length ≤ maxPath ∧
      tree.follow maxLinks (tree.origin path) (FileTree.steps path) = .ok place := by
  rw [resolve]
  by_cases hzero : 0 ∈ path.bytes
  · simp [hzero]
  · by_cases hnil : path.bytes = []
    · simp [hnil]
    · by_cases hlength : maxPath < path.bytes.length
      · simp [hzero, hnil, hlength, Nat.not_le.mpr hlength]
      · simp [hzero, hnil, hlength, Nat.not_lt.mp hlength]

section Below

variable {root path : Path} (hrelative : path.isAbsolute = false)
  (hnames : ∀ name ∈ names, IsEntryName name) (hne : names ≠ [])

include hrelative hnames hne

lemma zero_not_mem_join_remainder (h : 0 ∉ (root.join path).bytes) :
    0 ∉ (root.join (root.remainder path names)).bytes := by
  have hzero : (0 : UInt8) ≠ slash := by decide
  rw [Path.mem_bytes_iff hzero] at h ⊢
  rw [Path.pieces_join_remainder hrelative (fun name h => (hnames name h).toIsName) hne root]
  rintro ⟨piece, hpiece, hmem⟩
  simp only [List.mem_append] at hpiece
  rcases hpiece with hstem | hkept | hname
  · refine h ⟨piece, (Path.stem_prefix_pieces _).mem ?_, hmem⟩
    rw [Path.stem_join hrelative]
    exact List.mem_append_left _ hstem
  · refine h ⟨piece, (Path.stem_prefix_pieces _).mem ?_, hmem⟩
    rw [Path.stem_join hrelative]
    exact List.mem_append_right _ (Path.kept_sublist.mem hkept)
  · exact (hnames piece hname).zero_not_mem hmem

/-- The way to what is below a directory is the way to the directory and further down, but for
steps that stay where they are. -/
lemma thins_steps_join_remainder :
    Thins (FileTree.steps (root.join path) ++ names.map .down)
      (FileTree.steps (root.join (root.remainder path names))) := by
  have hnames' : ∀ name ∈ names, Path.IsName name := fun name h => (hnames name h).toIsName
  obtain ⟨stays, hstays, hsteps⟩ := exists_steps_eq (root.join path)
  have hway : FileTree.steps (root.join (root.remainder path names)) =
      stepsWithin root.stem ++ (stepsWithin (root.kept path) ++ ([] ++ names.map .down)) := by
    have hpieces := Path.pieces_join_remainder hrelative hnames' hne root
    rw [← List.append_assoc] at hpieces
    rw [steps_of_pieces_eq_append hnames' hne hpieces, stepsWithin_append, List.append_assoc,
      List.nil_append]
  rw [hsteps, hway, Path.stem_join hrelative, stepsWithin_append]
  simp only [List.append_assoc]
  refine (Thins.refl _).append (Thins.append ?_ ((Thins.of_forall_eq_stay hstays).append (.refl _)))
  rw [Path.kept]
  split
  · exact .refl _
  · exact thins_dropWhile_isVoid _

/-- What is below a directory is found by what is left of its path below the root, as seen from
there. -/
lemma resolve_join_remainder (hplace : tree.resolve (root.join path) = .ok place)
    (h : tree.at? (place ++ names) = some found) (hfound : ∀ target, found ≠ .link target)
    (hlength : (root.join (root.remainder path names)).bytes.length ≤ maxPath) :
    tree.resolve (root.join (root.remainder path names)) = .ok (place ++ names) := by
  have hnames' : ∀ name ∈ names, Path.IsName name := fun name h => (hnames name h).toIsName
  rw [resolve_eq_ok_iff] at hplace ⊢
  obtain ⟨hzero, -, -, hfollow⟩ := hplace
  refine ⟨zero_not_mem_join_remainder hrelative hnames hne hzero, ?_, hlength, ?_⟩
  · exact Path.join_bytes_ne_nil (Path.remainder_bytes_ne_nil hrelative hnames' hne root) root
  · have horigin : tree.origin (root.join (root.remainder path names)) =
        tree.origin (root.join path) := by
      rw [origin_join hrelative,
        origin_join (Path.isAbsolute_remainder hrelative hnames' hne root)]
    -- first to the directory as before, and then down with the links that are left
    obtain ⟨left, hleft⟩ := follow_append hfollow
    apply follow_of_thins (thins_steps_join_remainder hrelative hnames hne)
    rw [horigin, hleft]
    exact follow_map_down (fun name h => (hnames name h).length_le) h hfound

end Below

/-! ### What stands elsewhere -/

/-- What stands at a place, apart from the entries of a directory. -/
def faceAt? (tree : FileTree) (place : Place) : Option Node := (tree.at? place).map Node.face

lemma Node.eq_or_of_face_eq {node node' : Node} (h : node.face = node'.face) :
    node = node' ∨ ∃ below below', node = .directory below ∧ node' = .directory below' := by
  cases node with
  | directory below =>
    cases node' with
    | directory below' => exact .inr ⟨below, below', rfl, rfl⟩
    | file | link | socket => cases h
  | file | link | socket =>
    cases node' with
    | directory below' => cases h
    | file | link | socket => exact .inl h

lemma isSome_entriesAt? (tree : FileTree) (place : Place) :
    (tree.entriesAt? place).isSome = ((tree.faceAt? place).bind Node.entries?).isSome := by
  rw [entriesAt?, faceAt?]
  cases tree.at? place with
  | none => rfl
  | some node => cases node <;> rfl

lemma faceAt?_eq_some_file_iff {content : List UInt8} :
    tree.faceAt? place = some (.file content) ↔ tree.at? place = some (.file content) := by
  rw [faceAt?]
  cases tree.at? place with
  | none => simp
  | some node => cases node <;> simp [Node.face]

lemma faceAt?_eq_some_directory_iff : tree.faceAt? place = some (.directory []) ↔
    ∃ entries, tree.at? place = some (.directory entries) := by
  rw [faceAt?]
  cases tree.at? place with
  | none => simp
  | some node => cases node <;> simp [Node.face]

lemma faceAt?_concat {entries : Entries} (h : tree.entriesAt? place = some entries) (name : Name) :
    tree.faceAt? (place ++ [name]) = (entries.lookup name).map Node.face := by
  rw [faceAt?, at?_concat, h, Option.bind_some]

lemma advance_congr (h : ∀ place, tree.faceAt? place = tree'.faceAt? place) :
    tree.advance jump start steps = tree'.advance jump start steps := by
  induction steps generalizing start with
  | nil => rfl
  | cons step rest ih =>
    have hsome : (tree.entriesAt? start).isSome = (tree'.entriesAt? start).isSome := by
      rw [isSome_entriesAt?, isSome_entriesAt?, h]
    simp only [advance]
    cases hentries : tree.entriesAt? start with
    | none =>
      have hentries' : tree'.entriesAt? start = none := by simpa [hentries] using hsome
      rw [hentries']
    | some entries =>
      have hentries' : (tree'.entriesAt? start).isSome := by simpa [hentries] using hsome.symm
      obtain ⟨entries', hentries'⟩ := Option.isSome_iff_exists.mp hentries'
      rw [hentries']
      cases step with
      | stay => exact ih
      | up => exact ih
      | down name =>
        have hchild := h (start ++ [name])
        rw [faceAt?_concat hentries, faceAt?_concat hentries'] at hchild
        cases hlookup : entries.lookup name with
        | none =>
          have hlookup' : entries'.lookup name = none := by simpa [hlookup] using hchild.symm
          simp only [hlookup, hlookup']
        | some child =>
          rw [hlookup, Option.map_some, eq_comm, Option.map_eq_some_iff] at hchild
          obtain ⟨child', hlookup', hface⟩ := hchild
          rcases Node.eq_or_of_face_eq hface with rfl | ⟨below, below', rfl, rfl⟩
          · simp only [hlookup, hlookup', ih]
          · simp only [hlookup, hlookup', ih]

lemma follow_congr (h : ∀ place, tree.faceAt? place = tree'.faceAt? place) :
    tree.follow links = tree'.follow links := by
  induction links with
  | zero =>
    funext start steps
    exact advance_congr h
  | succ links ih =>
    funext start steps
    rw [follow, follow, ih]
    exact advance_congr h

lemma resolve_congr (h : ∀ place, tree.faceAt? place = tree'.faceAt? place)
    (hdirectory : tree.workingDirectory = tree'.workingDirectory) (path : Path) :
    tree.resolve path = tree'.resolve path := by
  rw [resolve, resolve, origin, origin, hdirectory, follow_congr h]

end OutlineLint.FileTree

import OutlineLint.FileTree.Repository
import OutlineLint.Proofs.FileTree.LinkFree
import OutlineLint.Proofs.Path.Display

/-!
# Files by the paths that are displayed

A file is read by the path under which it is declared, and shown by the displayed form of this path.
In a tree without symbolic links a path leads up from the root of the repository and then down over
names (`endpoint_steps`), and its displayed form leads down over these names. So what is shown leads
to the file that was read if and only if the path never goes up beyond the root of the repository,
or cannot because this is the top (`readFrom_displayed_iff`).
-/

namespace OutlineLint.FileTree

open OutlineLint.Path (Name)

variable {tree : FileTree} {root path : Path} {links : Nat} {start place : Place}
  {content : List UInt8}

/-! ### Where a way leads -/

/-- The place to which a way leads. Nothing is above the top. -/
def ofWay (start : Place) (way : Path.Way) : Place :=
  start.take (start.length - way.up) ++ way.down

lemma apply_ofWay (start : Place) (way : Path.Way) (piece : List UInt8) :
    (stepsOfPieces.step piece).apply (ofWay start way) =
      ofWay start ((Path.component? piece).toList.foldl Path.Way.push way) := by
  by_cases hvoid : piece = [] ∨ piece = [Path.dot]
  · rcases hvoid with rfl | rfl <;> rfl
  · rw [not_or] at hvoid
    by_cases hdots : piece = [Path.dot, Path.dot]
    · subst hdots
      show (ofWay start way).dropLast = ofWay start (way.push .parent)
      rw [ofWay, ofWay, Path.Way.push]
      by_cases hnil : way.down = []
      · rw [if_pos hnil, hnil, List.append_nil, List.append_nil, List.dropLast_eq_take,
          List.take_take, List.length_take]
        congr 1
        simp only []
        omega
      · rw [if_neg hnil, List.dropLast_append_of_ne_nil hnil]
    · have hstep : stepsOfPieces.step piece = .down piece := by
        simp [stepsOfPieces.step, hvoid, hdots]
      have hcomponent : Path.component? piece = some (.name piece) := by
        simp [Path.component?, hvoid, hdots]
      rw [hstep, hcomponent]
      simp [Step.apply, ofWay, Path.Way.push]

lemma endpoint_stepsWithin (start : Place) (way : Path.Way) (pieces : List (List UInt8)) :
    endpoint (ofWay start way) (stepsWithin pieces) =
      ofWay start ((pieces.filterMap Path.component?).foldl Path.Way.push way) := by
  induction pieces generalizing way with
  | nil => rfl
  | cons piece pieces ih =>
    have hfold : ((piece :: pieces).filterMap Path.component?).foldl Path.Way.push way =
        (pieces.filterMap Path.component?).foldl Path.Way.push
          ((Path.component? piece).toList.foldl Path.Way.push way) := by
      cases hpiece : Path.component? piece <;> simp [hpiece]
    rw [hfold, ← ih, ← apply_ofWay]
    by_cases hnil : piece = []
    · subst hnil
      rfl
    · simp [stepsWithin, endpoint, hnil]

/-- The steps along a path lead where its way does. -/
lemma endpoint_steps (start : Place) (path : Path) :
    endpoint start (FileTree.steps path) = ofWay start path.way := by
  have hstart : ofWay start .start = start := by simp [ofWay, Path.Way.start]
  obtain ⟨init, last, hpieces⟩ := (List.eq_nil_or_concat path.pieces).resolve_left
    (Path.pieces_ne_nil path)
  have hinit := endpoint_stepsWithin start .start init
  have hlast : [last].filterMap Path.component? = (Path.component? last).toList := by
    cases hcomponent : Path.component? last <;> simp [hcomponent]
  rw [hstart, endpoint] at hinit
  rw [FileTree.steps, Path.way_eq, hpieces, List.concat_eq_append, stepsOfPieces_concat, endpoint,
    List.foldl_append, hinit, List.foldl_cons, List.foldl_nil, apply_ofWay, List.filterMap_append,
    List.foldl_append, hlast]

/-- Only a way that does not go up, or that starts at the top, leads where its names alone do. -/
lemma ofWay_eq_append_iff {way : Path.Way} :
    ofWay start way = start ++ way.down ↔ way.up = 0 ∨ start = [] := by
  rw [ofWay, List.append_left_inj]
  constructor
  · intro h
    have hlength := congrArg List.length h
    rw [List.length_take] at hlength
    rcases Nat.eq_zero_or_pos start.length with hzero | hpos
    · exact .inr (List.length_eq_zero_iff.mp hzero)
    · exact .inl (by omega)
  · rintro (h | h) <;> simp [h]

/-! ### Ways to files -/

/-- On the way to a file one goes down at last. -/
lemma down_ne_nil_of_file {way : Path.Way} (hstart : (tree.entriesAt? start).isSome)
    (hfile : tree.at? (ofWay start way) = some (.file content)) : way.down ≠ [] := by
  intro hnil
  rw [ofWay, hnil, List.append_nil] at hfile
  -- what stands above a directory is a directory
  obtain ⟨entries, hentries⟩ := Option.isSome_iff_exists.mp hstart
  obtain ⟨node, hnode, hentries⟩ := Option.bind_eq_some_iff.mp hentries
  rw [at?, ← List.take_append_drop (start.length - way.up) start, Node.at?_append, ← at?, hfile,
    Option.bind_some] at hnode
  cases hrest : start.drop (start.length - way.up) with
  | nil =>
    rw [hrest] at hnode
    cases hnode
    cases hentries
  | cons name rest =>
    rw [hrest, Node.at?_cons] at hnode
    cases hnode

/-- A relative path is followed to where the root leads and from there on. -/
lemma LinkFree.resolve_join_eq_ok_iff (hlinks : tree.LinkFree)
    (hrelative : path.isAbsolute = false) : tree.resolve (root.join path) = .ok place ↔
      0 ∉ (root.join path).bytes ∧ (root.join path).bytes ≠ [] ∧
        (root.join path).bytes.length ≤ maxPath ∧
        ∃ start, tree.follow maxLinks (tree.origin root) (stepsWithin root.stem) = .ok start ∧
          tree.follow maxLinks start (FileTree.steps path) = .ok place := by
  rw [resolve_eq_ok_iff, origin_join hrelative, steps_join hrelative, hlinks.follow_append_iff]

lemma bytes_join (hrelative : path.isAbsolute = false) :
    (root.join path).bytes = root.bytes ++ root.separator ++ path.bytes := by
  rw [Path.join, hrelative]
  rfl

/-- A path that is not longer than another one and has no NUL can be followed from the same root as
far as its spelling goes. -/
lemma followable_join {other : Path} (hrelative : path.isAbsolute = false)
    (hother : other.isAbsolute = false) (hne : other.bytes ≠ []) (hzero' : 0 ∉ other.bytes)
    (hle : other.bytes.length ≤ path.bytes.length) (hzero : 0 ∉ (root.join path).bytes)
    (hlength : (root.join path).bytes.length ≤ maxPath) :
    0 ∉ (root.join other).bytes ∧ (root.join other).bytes ≠ [] ∧
      (root.join other).bytes.length ≤ maxPath := by
  rw [bytes_join hrelative] at hzero hlength
  refine ⟨?_, Path.join_bytes_ne_nil hne root, ?_⟩
  · rw [bytes_join hother]
    simp only [List.mem_append, not_or] at hzero ⊢
    exact ⟨hzero.1, hzero'⟩
  · rw [bytes_join hother]
    simp only [List.length_append] at hlength ⊢
    omega

/-- Where the root leads, so does the way to it that stays there. -/
lemma LinkFree.resolve_join_current (hlinks : tree.LinkFree) (hrelative : path.isAbsolute = false)
    (hne : path.bytes ≠ []) (hzero : 0 ∉ (root.join path).bytes)
    (hlength : (root.join path).bytes.length ≤ maxPath)
    (hstart : tree.follow maxLinks (tree.origin root) (stepsWithin root.stem) = .ok start)
    (hdirectory : (tree.entriesAt? start).isSome) :
    tree.resolve (root.join (.ofString ".")) = .ok start := by
  have hcurrent : (Path.ofString ".").isAbsolute = false := by decide
  have hle : (Path.ofString ".").bytes.length ≤ path.bytes.length :=
    List.length_pos_of_ne_nil hne
  obtain ⟨hzero', hne', hlength'⟩ :=
    followable_join hrelative hcurrent (by decide) (by decide) hle hzero hlength
  have hstay : tree.follow maxLinks start (FileTree.steps (.ofString ".")) = .ok start := by
    have hsteps : FileTree.steps (.ofString ".") = [.stay] := by decide
    obtain ⟨jump, hjump⟩ := tree.exists_follow_eq_advance maxLinks
    rw [hjump, hsteps, hlinks.advance_cons_iff]
    exact ⟨hdirectory, rfl⟩
  exact (hlinks.resolve_join_eq_ok_iff hcurrent).mpr
    ⟨hzero', hne', hlength', start, hstart, hstay⟩

/-- A relative path that leads to a file leads there from where the root leads. -/
lemma LinkFree.exists_start_of_relative (hlinks : tree.LinkFree)
    (hrelative : path.isAbsolute = false) (h : tree.resolve (root.join path) = .ok place)
    (hfile : tree.at? place = some (.file content)) :
    ∃ start, tree.follow maxLinks (tree.origin root) (stepsWithin root.stem) = .ok start ∧
      tree.resolve (root.join (.ofString ".")) = .ok start ∧
      tree.follow maxLinks start (FileTree.steps path) = .ok place ∧
      place = ofWay start path.way ∧ path.way.down ≠ [] := by
  obtain ⟨hzero, -, hlength, start, hstart, hfollow⟩ :=
    (hlinks.resolve_join_eq_ok_iff hrelative).mp h
  have hplace : place = ofWay start path.way :=
    (hlinks.eq_endpoint hfollow).trans (endpoint_steps start path)
  have hdirectory := isSome_entriesAt?_of_follow hfollow (steps_ne_nil path)
  have hne : path.way.down ≠ [] := down_ne_nil_of_file hdirectory (hplace ▸ hfile)
  have hroot := hlinks.resolve_join_current hrelative
    (Path.bytes_ne_nil_of_way_down_ne_nil hne) hzero hlength hstart hdirectory
  exact ⟨start, hstart, hroot, hfollow, hplace, hne⟩

/-- Over the names on the way of a path to a file one comes to the file if it stands there. -/
lemma LinkFree.follow_names_iff (hlinks : tree.LinkFree)
    (hfollow : tree.follow links start (FileTree.steps path) = .ok place)
    (hfile : tree.at? place = some (.file content)) :
    tree.follow links start (path.way.down.map .down) = .ok place ↔
      place = start ++ path.way.down := by
  constructor
  · intro h
    rw [hlinks.eq_endpoint h, endpoint_map_down]
  · rintro rfl
    refine follow_map_down ?_ hfile (by simp)
    intro name hname
    apply hlinks.length_le_of_follow hfollow
    exact down_mem_steps (Path.isName_of_mem_way_down hname)
      ((Path.way_down_sublist_pieces path).subset hname)

/-! ### The displayed form -/

section Displayed

variable (hlinks : tree.LinkFree) (hnames : path.HasTextNames)
  (hfile : tree.at? place = some (.file content))

include hlinks hnames hfile

/-- The displayed form of a relative path leads to its file if and only if the path does not go up
beyond the root of the repository, or this is the top. -/
lemma resolve_displayed_iff_of_relative (hrelative : path.isAbsolute = false)
    (h : tree.resolve (root.join path) = .ok place) :
    tree.resolve (root.join path.displayed) = .ok place ↔
      path.StaysBelow ∨ tree.resolve (root.join (.ofString ".")) = .ok [] := by
  obtain ⟨start, hstart, hroot, hfollow, hplace, hne⟩ :=
    hlinks.exists_start_of_relative hrelative h hfile
  have hrelative' : path.displayed.isAbsolute = false := by
    rw [Path.isAbsolute_displayed hnames hne, hrelative]
  have hpieces : path.displayed.pieces = [] ++ path.way.down :=
    Path.pieces_displayed hnames hne hrelative
  have hsteps : FileTree.steps path.displayed = path.way.down.map .down :=
    steps_of_pieces_eq_append (fun _ => Path.isName_of_mem_way_down) hne hpieces
  have hshown : tree.resolve (root.join path.displayed) = .ok place ↔
      place = start ++ path.way.down := by
    rw [hlinks.resolve_join_eq_ok_iff hrelative', hsteps, ← hlinks.follow_names_iff hfollow hfile]
    constructor
    · rintro ⟨-, -, -, start', hstart', hfollow'⟩
      obtain rfl : start = start' := Except.ok.inj (hstart.symm.trans hstart')
      exact hfollow'
    · intro hfollow'
      obtain ⟨hzero, -, hlength, -⟩ := resolve_eq_ok_iff.mp h
      have hzeroShown : 0 ∉ path.displayed.bytes := by
        intro hmem
        rw [bytes_join hrelative] at hzero
        exact hzero (List.mem_append_right _
          (Path.mem_of_mem_displayed hnames hne (by decide) hmem))
      obtain ⟨hzero', hne', hlength'⟩ := followable_join hrelative hrelative'
        (Path.displayed_bytes_ne_nil hnames hne) hzeroShown
        (Path.length_displayed_le hnames hne hrelative) hzero hlength
      exact ⟨hzero', hne', hlength', start, hstart, hfollow'⟩
  rw [hshown, hplace, ofWay_eq_append_iff, Path.staysBelow_iff_way_up_eq_zero, hroot,
    Except.ok.injEq]

/-- The displayed form of an absolute path leads to its file if and only if it is not too long. -/
lemma resolve_displayed_iff_of_absolute (habsolute : path.isAbsolute = true)
    (h : tree.resolve (root.join path) = .ok place) :
    tree.resolve (root.join path.displayed) = .ok place ↔
      path.displayed.bytes.length ≤ maxPath := by
  have hjoin {other : Path} (hother : other.isAbsolute = true) : root.join other = other :=
    if_pos hother
  rw [hjoin habsolute] at h
  obtain ⟨hzero, -, -, hfollow⟩ := resolve_eq_ok_iff.mp h
  have horigin : tree.origin path = [] := by rw [origin, habsolute, if_pos rfl]
  rw [horigin] at hfollow
  have hplace : place = ofWay [] path.way :=
    (hlinks.eq_endpoint hfollow).trans (endpoint_steps [] path)
  have hdirectory := isSome_entriesAt?_of_follow hfollow (steps_ne_nil path)
  have hne : path.way.down ≠ [] := down_ne_nil_of_file hdirectory (hplace ▸ hfile)
  have hpieces : path.displayed.pieces = [[], []] ++ path.way.down :=
    Path.pieces_displayed_absolute hnames hne habsolute
  have hsteps : FileTree.steps path.displayed = path.way.down.map .down :=
    steps_of_pieces_eq_append (fun _ => Path.isName_of_mem_way_down) hne hpieces
  have habsolute' : path.displayed.isAbsolute = true := by
    rw [Path.isAbsolute_displayed hnames hne, habsolute]
  have horigin' : tree.origin path.displayed = [] := by rw [origin, habsolute', if_pos rfl]
  have hzero' : 0 ∉ path.displayed.bytes := fun hmem =>
    hzero (Path.mem_of_mem_displayed hnames hne (by decide) hmem)
  have hfollow' : tree.follow maxLinks [] (path.way.down.map .down) = .ok place :=
    (hlinks.follow_names_iff hfollow hfile).mpr (by simpa [ofWay] using hplace)
  rw [hjoin habsolute', resolve_eq_ok_iff, horigin', hsteps]
  constructor
  · rintro ⟨-, -, hlength, -⟩
    exact hlength
  · intro hlength
    exact ⟨hzero', Path.displayed_bytes_ne_nil hnames hne, hlength, hfollow'⟩

end Displayed

/-- A text is read where a file with its bytes stands. -/
lemma readFrom_eq_ok_iff {text : String} : tree.readFrom root path = .ok text ↔
    ∃ place raw, tree.resolve (root.join path) = .ok place ∧
      tree.at? place = some (.file (Text.bytes raw)) ∧ Text.unifyLineEndings raw = text := by
  constructor
  · intro h
    rw [readFrom, readText, readBytes] at h
    cases hplace : tree.resolve (root.join path) with
    | error fault => simp [hplace, bind, Except.bind] at h
    | ok place =>
      cases hat : tree.at? place with
      | none => simp [hplace, hat, bind, Except.bind] at h
      | some node =>
        cases node with
        | directory | link | socket => simp [hplace, hat, bind, Except.bind] at h
        | file content =>
          cases hraw : Text.ofBytes? content with
          | none => simp [hplace, hat, hraw, bind, Except.bind] at h
          | some raw =>
            refine ⟨place, raw, rfl, ?_, by simpa [hplace, hat, hraw, bind, Except.bind] using h⟩
            rw [hat, Text.bytes_of_ofBytes? hraw]
  · rintro ⟨place, raw, hplace, hfile, htext⟩
    simp [readFrom, readText, readBytes, hplace, hfile, htext, bind, Except.bind]

/-- In a tree without symbolic links a file is read under a path with names that are texts. What is
shown of the path leads to the same place if and only if the path does not go up beyond the root of
the repository or this is the top, or for an absolute path if it is not shown too long. In these
cases the same text is read there. -/
theorem readFrom_displayed_iff (hlinks : tree.LinkFree) (hnames : path.HasTextNames) {text : String}
    (h : tree.readFrom root path = .ok text) :
    ∃ place, tree.resolve (root.join path) = .ok place ∧
      (tree.resolve (root.join path.displayed) = .ok place ↔
        if path.isAbsolute then path.displayed.bytes.length ≤ maxPath
        else path.StaysBelow ∨ tree.resolve (root.join (.ofString ".")) = .ok []) ∧
      (tree.resolve (root.join path.displayed) = .ok place →
        tree.readFrom root path.displayed = .ok text) := by
  obtain ⟨place, raw, hplace, hfile, htext⟩ := readFrom_eq_ok_iff.mp h
  refine ⟨place, hplace, ?_, fun hshown =>
    readFrom_eq_ok_iff.mpr ⟨place, raw, hshown, hfile, htext⟩⟩
  cases habsolute : path.isAbsolute with
  | false =>
    rw [if_neg Bool.false_ne_true]
    exact resolve_displayed_iff_of_relative hlinks hnames hfile habsolute hplace
  | true =>
    rw [if_pos rfl]
    exact resolve_displayed_iff_of_absolute hlinks hnames hfile habsolute hplace

/-- A path that goes up only to where it has come down is displayed without the detour, and the file
is read under this form, too. -/
theorem readFrom_displayed_iff_detour :
    let name (s : String) : Name := Text.bytes s
    let repo : Entries := [(name "docs", .directory []), (name "t.md", .file (name "## A\r\n"))]
    let tree : FileTree := ⟨[(name "repo", .directory repo)], []⟩
    let root := Path.ofString "repo/"
    let path := Path.ofString "./docs//../t.md"
    tree.LinkFree ∧ path.HasTextNames ∧ tree.readFrom root path = .ok "## A\n" ∧
      path.StaysBelow ∧ path.displayed = .ofString "t.md" ∧
      tree.readFrom root (.ofString "t.md") = .ok "## A\n" := by
  intro name repo tree root path
  have hlinks : tree.LinkFree := by
    refine .directory (List.forall_mem_singleton.mpr (.directory ?_))
    exact List.forall_mem_cons.mpr ⟨.directory nofun, List.forall_mem_singleton.mpr (.file _)⟩
  have hnames : path.HasTextNames := by
    intro bytes hbytes
    have hcomponents : path.components =
        [.current, .name (name "docs"), .parent, .name (name "t.md")] := by decide +kernel
    rw [hcomponents] at hbytes
    simp at hbytes
    rcases hbytes with rfl | rfl
    · exact ⟨"docs", rfl⟩
    · exact ⟨"t.md", rfl⟩
  have hread : tree.readFrom root path = .ok "## A\n" :=
    readFrom_eq_ok_iff.mpr
      ⟨[name "repo", name "t.md"], "## A\r\n", by rfl, by rfl, by decide +kernel⟩
  have hbelow : path.StaysBelow := Path.staysBelow_iff_way_up_eq_zero.mpr (by decide +kernel)
  have hdisplayed : path.displayed = .ofString "t.md" := by decide +kernel
  obtain ⟨place, hplace, hiff, htext⟩ := readFrom_displayed_iff hlinks hnames hread
  have hrelative : path.isAbsolute = false := by decide
  rw [hrelative, if_neg Bool.false_ne_true] at hiff
  exact ⟨hlinks, hnames, hread, hbelow, hdisplayed, hdisplayed ▸ htext (hiff.mpr (.inl hbelow))⟩

/-- A path that goes up beyond the root is displayed as if it did not. Another file is read under
this form. -/
theorem not_readFrom_displayed_beyond_root :
    let name (s : String) : Name := Text.bytes s
    let tree : FileTree :=
      ⟨[(name "t.md", .file (name "## B")),
        (name "repo", .directory [(name "t.md", .file (name "## A"))])], []⟩
    let root := Path.ofString "repo"
    let path := Path.ofString "../t.md"
    tree.LinkFree ∧ path.HasTextNames ∧ tree.readFrom root path = .ok "## B" ∧
      tree.readFrom root path.displayed = .ok "## A" := by
  intro name tree root path
  have hlinks : tree.LinkFree := by
    refine .directory (List.forall_mem_cons.mpr ⟨.file _, List.forall_mem_singleton.mpr ?_⟩)
    exact .directory (List.forall_mem_singleton.mpr (.file _))
  have hnames : path.HasTextNames := by
    intro bytes hbytes
    have hcomponents : path.components = [.parent, .name (name "t.md")] := by decide +kernel
    rw [hcomponents] at hbytes
    simp at hbytes
    exact ⟨"t.md", hbytes.symm⟩
  have hdisplayed : path.displayed = .ofString "t.md" := by decide +kernel
  refine ⟨hlinks, hnames, ?_, ?_⟩
  · exact readFrom_eq_ok_iff.mpr ⟨[name "t.md"], "## B", by rfl, by rfl, by decide +kernel⟩
  · rw [hdisplayed]
    exact readFrom_eq_ok_iff.mpr
      ⟨[name "repo", name "t.md"], "## A", by rfl, by rfl, by decide +kernel⟩

end OutlineLint.FileTree

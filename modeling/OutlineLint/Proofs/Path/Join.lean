import Mathlib.Data.List.Basic
import Mathlib.Tactic.Lemma
import OutlineLint.Path.Basic
import OutlineLint.Proofs.Text.Segments

/-!
# Joined paths

The pieces of two paths that are joined are the pieces of both, but for an empty last piece of the
first one (`pieces_join`). So if names are joined to a path one after the other, they are its last
pieces (`pieces_descend`) and its last components. What is left of such a path when its start is
taken off is spelled by the remaining pieces (`below?_descend`), and joined to that start again it
has the same pieces, but for some that stand for no component (`pieces_join_remainder`).
-/

namespace OutlineLint.Path

variable {p q root path : Path} {piece : List UInt8} {name : Name} {names : List Name}

/-! ### Pieces -/

lemma pieces_ne_nil (p : Path) : p.pieces ≠ [] := List.splitOn_ne_nil _ _

lemma intercalate_pieces (p : Path) : [slash].intercalate p.pieces = p.bytes :=
  List.intercalate_splitOn slash

lemma pieces_injective (h : p.pieces = q.pieces) : p = q := by
  have hbytes : p.bytes = q.bytes := by rw [← intercalate_pieces p, h, intercalate_pieces q]
  cases p
  cases q
  exact congrArg Path.mk hbytes

lemma pieces_intercalate {pieces : List (List UInt8)} (hne : pieces ≠ [])
    (h : ∀ piece ∈ pieces, slash ∉ piece) :
    (⟨[slash].intercalate pieces⟩ : Path).pieces = pieces :=
  List.splitOn_intercalate slash h hne

lemma pieces_of_bytes_eq_nil (h : p.bytes = []) : p.pieces = [[]] := by
  simp [pieces, h]

lemma bytes_ne_nil_of_pieces_eq_cons {more : List (List UInt8)} (h : p.pieces = piece :: more)
    (hne : piece ≠ [] ∨ more ≠ []) : p.bytes ≠ [] := by
  intro hnil
  rw [pieces_of_bytes_eq_nil hnil, List.cons.injEq] at h
  rcases hne with hpiece | hmore
  · exact hpiece h.1.symm
  · exact hmore h.2.symm

lemma pieces_append_slash (as bs : List UInt8) :
    (⟨as ++ slash :: bs⟩ : Path).pieces = (⟨as⟩ : Path).pieces ++ (⟨bs⟩ : Path).pieces :=
  List.splitOn_append_cons_self as bs

lemma mem_intercalate_iff {b : UInt8} (hb : b ≠ slash) (pieces : List (List UInt8)) :
    b ∈ [slash].intercalate pieces ↔ ∃ piece ∈ pieces, b ∈ piece := by
  induction pieces with
  | nil => simp
  | cons piece rest ih =>
    by_cases hrest : rest = []
    · simp [hrest]
    · simp [List.intercalate_cons_of_ne_nil hrest, ih, hb]

lemma mem_bytes_iff {b : UInt8} (hb : b ≠ slash) : b ∈ p.bytes ↔ ∃ piece ∈ p.pieces, b ∈ piece := by
  rw [← mem_intercalate_iff hb, intercalate_pieces]

lemma slash_not_mem_of_mem_pieces (h : piece ∈ p.pieces) : slash ∉ piece :=
  Text.not_mem_of_mem_splitOn h

/-- Only a path that ends with a slash has an empty last piece after another piece. -/
lemma bytes_of_pieces_eq_append_nil {init : List (List UInt8)} (hne : init ≠ [])
    (h : p.pieces = init ++ [[]]) : p.bytes = [slash].intercalate init ++ [slash] := by
  have hinit : ∀ piece ∈ init, slash ∉ piece := by
    intro piece hpiece
    exact slash_not_mem_of_mem_pieces (p := p) (by simp [h, hpiece])
  have hpieces : p = ⟨[slash].intercalate init ++ [slash]⟩ := by
    apply pieces_injective
    rw [pieces_append_slash, pieces_intercalate hne hinit, h]
    rfl
  rw [hpieces]

/-- The pieces of a path but for an empty last one. -/
def stem (p : Path) : List (List UInt8) :=
  if p.pieces.getLast? = some [] then p.pieces.dropLast else p.pieces

lemma stem_prefix_pieces (p : Path) : p.stem <+: p.pieces := by
  unfold stem
  split
  · exact List.dropLast_prefix _
  · exact List.prefix_rfl

lemma stem_of_bytes_eq_nil (h : p.bytes = []) : p.stem = [] := by
  simp [stem, pieces, h]

lemma pieces_join (hq : q.isAbsolute = false) : (p.join q).pieces = p.stem ++ q.pieces := by
  rw [join, hq]
  simp only [Bool.false_eq_true, if_false]
  rcases List.eq_nil_or_concat p.bytes with hnil | ⟨as, last, hlast⟩
  · rw [stem_of_bytes_eq_nil hnil]
    simp [separator, hnil]
  · by_cases hs : last = slash
    · have hpieces : p.pieces = (⟨as⟩ : Path).pieces ++ [[]] := by
        have := pieces_append_slash as []
        simp_all [pieces]
      simp [stem, separator, hlast, hs, hpieces, pieces_append_slash]
    · have hstem : p.stem = p.pieces := by
        refine if_neg fun h => ?_
        obtain ⟨init, hinit⟩ := List.getLast?_eq_some_iff.mp h
        by_cases hne : init = []
        · have := intercalate_pieces p
          simp_all
        · have := bytes_of_pieces_eq_append_nil hne hinit
          simp_all
      rw [hstem]
      simpa [separator, hlast, hs, pieces] using pieces_append_slash (as ++ [last]) q.bytes

lemma isAbsolute_join (hq : q.isAbsolute = false) : (p.join q).isAbsolute = p.isAbsolute := by
  rw [join, hq]
  cases hbytes : p.bytes with
  | nil => simpa [isAbsolute, hbytes, separator] using hq
  | cons b bs => simp [isAbsolute, hbytes]

lemma join_bytes_ne_nil (hq : q.bytes ≠ []) (p : Path) : (p.join q).bytes ≠ [] := by
  unfold join
  split
  · exact hq
  · simp [hq]

lemma stem_join (hq : q.isAbsolute = false) : (p.join q).stem = p.stem ++ q.stem := by
  unfold stem
  rw [pieces_join hq, List.getLast?_append_of_ne_nil _ (pieces_ne_nil q)]
  split
  · rw [List.dropLast_append_of_ne_nil (pieces_ne_nil q), stem]
  · rw [stem]

lemma length_intercalate_le {xs ys : List (List UInt8)} (h : xs.Sublist ys) :
    ([slash].intercalate xs).length ≤ ([slash].intercalate ys).length := by
  induction h with
  | slnil => exact Nat.le_refl _
  | @cons xs ys y h ih =>
    by_cases hys : ys = []
    · rw [hys, List.sublist_nil] at h
      simp [h]
    · rw [List.intercalate_cons_of_ne_nil hys]
      simp
      omega
  | @cons_cons xs ys y h ih =>
    by_cases hxs : xs = []
    · by_cases hys : ys = []
      · simp [hxs, hys]
      · simp [hxs, List.intercalate_cons_of_ne_nil hys]
    · have hys : ys ≠ [] := by
        rintro rfl
        exact hxs (List.sublist_nil.mp h)
      rw [List.intercalate_cons_of_ne_nil hxs, List.intercalate_cons_of_ne_nil hys]
      simp
      omega

/-! ### Components -/

/-- What the first piece of a path stands for if the path is spelled at all. -/
def leadingComponent (piece : List UInt8) : Component :=
  if piece = [] then .root else if piece = [dot] then .current else (component? piece).getD .root

lemma component?_eq_some_leadingComponent (h : piece ≠ []) (hdot : piece ≠ [dot]) :
    component? piece = some (leadingComponent piece) := by
  by_cases hdots : piece = [dot, dot] <;> simp [component?, leadingComponent, h, hdot, hdots]

lemma isAbsolute_of_pieces_eq_cons {more : List (List UInt8)} (hp : p.bytes ≠ [])
    (h : p.pieces = piece :: more) : p.isAbsolute = piece.isEmpty := by
  obtain ⟨bytes⟩ := p
  cases bytes with
  | nil => exact absurd rfl hp
  | cons b bs =>
    rw [pieces, List.splitOn_cons_eq_if_modifyHead] at h
    obtain ⟨first, rest, hsplit⟩ := List.exists_cons_of_ne_nil (List.splitOn_ne_nil slash bs)
    by_cases hb : b = slash
    · rw [if_pos (by simpa using hb), List.cons.injEq] at h
      simp [isAbsolute, hb, ← h.1]
    · rw [if_neg (by simpa using hb), hsplit, List.modifyHead_cons, List.cons.injEq] at h
      simp [isAbsolute, hb, ← h.1]

lemma components_of_pieces_eq_cons {more : List (List UInt8)} (hp : p.bytes ≠ [])
    (h : p.pieces = piece :: more) :
    p.components = leadingComponent piece :: more.filterMap component? := by
  simp only [components, h, leading, isAbsolute_of_pieces_eq_cons hp h]
  by_cases hnil : piece = []
  · simp [hnil, leadingComponent]
  · by_cases hdot : piece = [dot]
    · simp [hdot, leadingComponent]
    · simp [hnil, hdot, component?_eq_some_leadingComponent hnil hdot]

lemma components_of_bytes_eq_nil (h : p.bytes = []) : p.components = [] := by
  simp [components, pieces_of_bytes_eq_nil h, leading, isAbsolute, h, component?]

/-- The first piece of a path that is spelled at all is one of its stem. -/
lemma exists_stem_eq_cons (hp : p.bytes ≠ []) :
    ∃ first more, p.stem = first :: more ∧
      p.components = leadingComponent first :: more.filterMap component? := by
  obtain ⟨first, more, hpieces⟩ := List.exists_cons_of_ne_nil (pieces_ne_nil p)
  by_cases hlast : p.pieces.getLast? = some []
  · obtain ⟨init, hinit⟩ := List.getLast?_eq_some_iff.mp hlast
    cases init with
    | nil =>
      have hbytes := intercalate_pieces p
      simp_all
    | cons piece init =>
      refine ⟨piece, init, by rw [stem, if_pos hlast, hinit, List.dropLast_concat], ?_⟩
      rw [components_of_pieces_eq_cons hp hinit]
      simp [component?]
  · exact ⟨first, more, by rw [stem, if_neg hlast, hpieces],
      components_of_pieces_eq_cons hp hpieces⟩

/-- A path that goes on from another one has its components first. -/
lemma components_of_pieces_eq_append {tail : List (List UInt8)} (hroot : root.bytes ≠ [])
    (htail : tail ≠ []) (h : p.pieces = root.stem ++ tail) :
    p.components = root.components ++ tail.filterMap component? := by
  obtain ⟨first, more, hstem, hcomponents⟩ := exists_stem_eq_cons hroot
  rw [hstem, List.cons_append] at h
  have hp : p.bytes ≠ [] := bytes_ne_nil_of_pieces_eq_cons h (.inr (by simp [htail]))
  rw [components_of_pieces_eq_cons hp h, hcomponents, List.filterMap_append, List.cons_append]

/-- If the first piece stands for a component at any place, all pieces count alike. -/
lemma components_eq_filterMap {more : List (List UInt8)} (h : p.pieces = piece :: more)
    (hnil : piece ≠ []) (hdot : piece ≠ [dot]) :
    p.components = p.pieces.filterMap component? := by
  rw [components_of_pieces_eq_cons (bytes_ne_nil_of_pieces_eq_cons h (.inl hnil)) h, h,
    List.filterMap_cons_some (component?_eq_some_leadingComponent hnil hdot)]

/-! ### Names -/

/-- A name that a file can have. -/
structure IsName (name : Name) : Prop where
  ne_nil : name ≠ []
  slash_not_mem : slash ∉ name
  ne_dot : name ≠ [dot]
  ne_dots : name ≠ [dot, dot]

instance : DecidablePred IsName := fun name =>
  decidable_of_iff (name ≠ [] ∧ slash ∉ name ∧ name ≠ [dot] ∧ name ≠ [dot, dot])
    ⟨fun h => ⟨h.1, h.2.1, h.2.2.1, h.2.2.2⟩, fun h => ⟨h.1, h.2, h.3, h.4⟩⟩

namespace IsName

lemma component?_eq (h : IsName name) : component? name = some (.name name) := by
  simp [component?, h.ne_nil, h.ne_dot, h.ne_dots]

lemma pieces_eq (h : IsName name) : (⟨name⟩ : Path).pieces = [name] :=
  List.splitOn_eq_singleton h.slash_not_mem

lemma stem_eq (h : IsName name) : (⟨name⟩ : Path).stem = [name] := by
  simp [stem, h.pieces_eq, h.ne_nil]

lemma isAbsolute_eq (h : IsName name) : (⟨name⟩ : Path).isAbsolute = false := by
  rw [isAbsolute_of_pieces_eq_cons h.ne_nil h.pieces_eq]
  simp [h.ne_nil]

end IsName

lemma filterMap_component?_names (h : ∀ name ∈ names, IsName name) :
    names.filterMap component? = names.map .name := by
  rw [← List.filterMap_eq_map]
  apply List.filterMap_congr
  intro name hname
  exact (h name hname).component?_eq

/-- The path that leads from the end of another one on over names. -/
def descend (p : Path) (names : List Name) : Path := names.foldl (fun p name => p.join ⟨name⟩) p

@[simp] lemma descend_nil (p : Path) : p.descend [] = p := rfl

@[simp] lemma descend_cons (p : Path) (name : Name) (names : List Name) :
    p.descend (name :: names) = (p.join ⟨name⟩).descend names := rfl

lemma pieces_descend (h : ∀ name ∈ names, IsName name) (hne : names ≠ []) (p : Path) :
    (p.descend names).pieces = p.stem ++ names := by
  induction names generalizing p with
  | nil => exact absurd rfl hne
  | cons name names ih =>
    rw [List.forall_mem_cons] at h
    cases names with
    | nil => rw [descend_cons, descend_nil, pieces_join h.1.isAbsolute_eq, h.1.pieces_eq]
    | cons other names =>
      rw [descend_cons, ih h.2 (by simp), stem_join h.1.isAbsolute_eq, h.1.stem_eq,
        List.append_assoc, List.singleton_append]

/-! ### Taking a path apart again -/

/-- Whether a piece stands for no component. -/
def isVoid (piece : List UInt8) : Bool := (component? piece).isNone

lemma isVoid_iff : isVoid piece = true ↔ piece = [] ∨ piece = [dot] := by
  by_cases hnil : piece = []
  · simp [isVoid, component?, hnil]
  · by_cases hdot : piece = [dot]
    · simp [isVoid, component?, hdot]
    · simp [isVoid, component?_eq_some_leadingComponent hnil hdot, hnil, hdot]

lemma skipComponents_zero (pieces : List (List UInt8)) :
    skipComponents 0 pieces = pieces.dropWhile isVoid := by
  induction pieces with
  | nil => rfl
  | cons piece rest ih => simp [skipComponents, List.dropWhile_cons, ih, isVoid]

/-- Skipping as many components as the first pieces stand for leaves what stands after them. -/
lemma skipComponents_append (xs ys : List (List UInt8)) :
    skipComponents (xs.filterMap component?).length (xs ++ ys) = skipComponents 0 ys := by
  induction xs with
  | nil => rfl
  | cons piece rest ih =>
    cases hpiece : component? piece with
    | none =>
      rw [List.filterMap_cons_none hpiece, List.cons_append, ← ih]
      cases (rest.filterMap component?).length <;> simp [skipComponents, hpiece]
    | some c => simp [skipComponents, hpiece, ih]

/-- The pieces of a path that still count where it goes on from a root that is taken off. -/
def kept (root path : Path) : List (List UInt8) :=
  if root.bytes = [] then path.stem else path.stem.dropWhile isVoid

lemma kept_sublist : (kept root path).Sublist path.stem := by
  unfold kept
  split
  · exact List.Sublist.refl _
  · exact List.dropWhile_sublist _

/-- What is left of a path below a root and a directory seen from there if the root is taken off. -/
def remainder (root path : Path) (names : List Name) : Path :=
  ⟨[slash].intercalate (kept root path ++ names)⟩

section Below

variable (hpath : path.isAbsolute = false) (hnames : ∀ name ∈ names, IsName name)
  (hne : names ≠ [])

include hnames hne

lemma dropWhile_isVoid_append (pieces : List (List UInt8)) :
    (pieces ++ names).dropWhile isVoid = pieces.dropWhile isVoid ++ names := by
  have hself : names.dropWhile isVoid = names := by
    obtain ⟨name, rest, rfl⟩ := List.exists_cons_of_ne_nil hne
    have hname := hnames name List.mem_cons_self
    exact List.dropWhile_cons_of_neg (by simp [isVoid, hname.component?_eq])
  rw [List.dropWhile_append, hself]
  split
  case isTrue h => rw [List.isEmpty_iff.mp h, List.nil_append]
  case isFalse => rfl

lemma pieces_remainder : (remainder root path names).pieces = kept root path ++ names := by
  apply pieces_intercalate (by simp [hne])
  intro piece hpiece
  rcases List.mem_append.mp hpiece with hkept | hname
  · exact slash_not_mem_of_mem_pieces ((stem_prefix_pieces path).subset (kept_sublist.subset hkept))
  · exact (hnames piece hname).slash_not_mem

include hpath

lemma pieces_descend_join :
    ((root.join path).descend names).pieces = root.stem ++ (path.stem ++ names) := by
  rw [pieces_descend hnames hne, stem_join hpath, List.append_assoc]

/-- A path below the root starts with the root, and the rest is what is left. -/
lemma below?_descend :
    ((root.join path).descend names).below? root = some (remainder root path names) := by
  have hpieces : ((root.join path).descend names).pieces = root.stem ++ (path.stem ++ names) :=
    pieces_descend_join hpath hnames hne
  by_cases hroot : root.bytes = []
  · -- a root that is not spelled at all is joined without a slash, and nothing is taken off
    rw [below?, components_of_bytes_eq_nil hroot]
    have hsame : (root.join path).descend names = remainder root path names := by
      apply pieces_injective
      rw [hpieces, pieces_remainder hnames hne, kept, if_pos hroot, stem_of_bytes_eq_nil hroot,
        List.nil_append]
    simpa [afterComponents] using hsame
  · obtain ⟨first, more, hstem, hcomponents⟩ := exists_stem_eq_cons hroot
    rw [below?, components_of_pieces_eq_append hroot (by simp [hne]) hpieces, if_pos (by simp),
      hcomponents]
    simp only [List.length_cons, afterComponents, hpieces, hstem, List.cons_append,
      List.drop_succ_cons, List.drop_zero]
    rw [skipComponents_append, skipComponents_zero, dropWhile_isVoid_append hnames hne, remainder,
      kept, if_neg hroot]

/-- What is left never starts with an empty piece, and if something was taken off, neither with
one for the current directory. -/
lemma exists_pieces_remainder_eq_cons (root : Path) :
    ∃ piece more, (remainder root path names).pieces = piece :: more ∧ piece ≠ [] ∧
      (root.bytes ≠ [] ∨ path.bytes = [] → piece ≠ [dot]) := by
  rw [pieces_remainder hnames hne]
  cases hkept : kept root path with
  | nil =>
    obtain ⟨name, rest, rfl⟩ := List.exists_cons_of_ne_nil hne
    have hname := hnames name List.mem_cons_self
    exact ⟨name, rest, rfl, hname.ne_nil, fun _ => hname.ne_dot⟩
  | cons piece more =>
    refine ⟨piece, more ++ names, rfl, ?_⟩
    by_cases hroot : root.bytes = []
    · rw [kept, if_pos hroot] at hkept
      obtain ⟨tail, htail⟩ := hkept ▸ stem_prefix_pieces path
      have hbytes : path.bytes ≠ [] := by
        intro hnil
        simp [stem_of_bytes_eq_nil hnil] at hkept
      rw [isAbsolute_of_pieces_eq_cons hbytes htail.symm] at hpath
      exact ⟨by simpa using hpath, fun h => absurd h (by simp [hroot, hbytes])⟩
    · rw [kept, if_neg hroot] at hkept
      have hvoid := List.head?_dropWhile_not isVoid path.stem
      rw [hkept] at hvoid
      have hnot : ¬(piece = [] ∨ piece = [dot]) := by
        rw [← isVoid_iff]
        simpa using hvoid
      exact ⟨fun h => hnot (.inl h), fun _ h => hnot (.inr h)⟩

lemma remainder_bytes_ne_nil (root : Path) : (remainder root path names).bytes ≠ [] := by
  obtain ⟨piece, more, hpieces, hnil, -⟩ := exists_pieces_remainder_eq_cons hpath hnames hne root
  exact bytes_ne_nil_of_pieces_eq_cons hpieces (.inl hnil)

lemma isAbsolute_remainder (root : Path) : (remainder root path names).isAbsolute = false := by
  obtain ⟨piece, more, hpieces, hnil, -⟩ := exists_pieces_remainder_eq_cons hpath hnames hne root
  rw [isAbsolute_of_pieces_eq_cons (remainder_bytes_ne_nil hpath hnames hne root) hpieces]
  simpa using hnil

lemma pieces_join_remainder (root : Path) :
    (root.join (remainder root path names)).pieces = root.stem ++ (kept root path ++ names) := by
  rw [pieces_join (isAbsolute_remainder hpath hnames hne root), pieces_remainder hnames hne]

/-- The components with which everything starts that is left below a directory. -/
def lead (root path : Path) : List Component :=
  if root.bytes = [] then path.components else (kept root path).filterMap component?

/-- What is left of a path is told apart by the names on the way. -/
lemma components_remainder (root : Path) :
    (remainder root path names).components = lead root path ++ names.map .name := by
  have hpieces : (remainder root path names).pieces = kept root path ++ names :=
    pieces_remainder hnames hne
  obtain ⟨piece, more, hcons, hnil, hdot⟩ := exists_pieces_remainder_eq_cons hpath hnames hne root
  unfold lead
  split
  case isTrue hroot =>
    by_cases hbytes : path.bytes = []
    · rw [components_of_bytes_eq_nil hbytes, List.nil_append,
        components_eq_filterMap hcons hnil (hdot (.inr hbytes)), hpieces, kept, if_pos hroot,
        stem_of_bytes_eq_nil hbytes, List.nil_append, filterMap_component?_names hnames]
    · rw [kept, if_pos hroot] at hpieces
      rw [components_of_pieces_eq_append hbytes hne hpieces, filterMap_component?_names hnames]
  case isFalse hroot =>
    rw [components_eq_filterMap hcons hnil (hdot (.inl hroot)), hpieces, List.filterMap_append,
      filterMap_component?_names hnames]

end Below

end OutlineLint.Path

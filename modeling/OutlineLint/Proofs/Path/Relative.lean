import Mathlib.Data.List.Induction
import OutlineLint.Proofs.Path.Normal
import OutlineLint.Proofs.Text.Lossy

/-!
# The way from one path to another

The way from a directory to a target goes up over the names that the directory has after the common
start of both, and down over those that the target has (`exists_wayTo_eq`). Spelled as a path and
joined to the directory it leads to the target, and no relative path that does so has fewer
components (`normalize_join_relativeTo_shortest`): with one component one cannot come closer to the
target than by one name (`apart_le_apart_push_add_one`).
-/

namespace OutlineLint.Path

variable {dir target q : Path}

/-! ### Common starts of lists -/

section

variable {α β : Type} {as bs up down : List α}

/-- The lists do not start with the same element. -/
def Parted (as bs : List α) : Prop := ∀ a, as.head? = some a → bs.head? ≠ some a

lemma Parted.map {f : α → β} (hf : Function.Injective f) (h : Parted as bs) :
    Parted (as.map f) (bs.map f) := by
  intro b ha hb
  rw [List.head?_map, Option.map_eq_some_iff] at ha hb
  obtain ⟨a, ha, rfl⟩ := ha
  obtain ⟨c, hc, hac⟩ := hb
  exact h a ha (hf hac ▸ hc)

lemma Parted.eq_nil (h : Parted as as) : as = [] := by
  cases as with
  | nil => rfl
  | cons a as => exact absurd rfl (h a rfl)

/-- Two lists are one up to where they part. -/
lemma exists_common (as bs : List α) :
    ∃ common up down, as = common ++ up ∧ bs = common ++ down ∧ Parted up down := by
  classical
  induction as generalizing bs with
  | nil => exact ⟨[], [], bs, rfl, rfl, nofun⟩
  | cons a as ih =>
    by_cases hhead : bs.head? = some a
    · obtain ⟨more, rfl⟩ := List.head?_eq_some_iff.mp hhead
      obtain ⟨common, up, down, rfl, rfl, hparted⟩ := ih more
      exact ⟨a :: common, up, down, rfl, rfl, hparted⟩
    · refine ⟨[], a :: as, bs, rfl, rfl, fun b hb => ?_⟩
      rwa [← Option.some.inj hb]

variable [DecidableEq α]

lemma dropCommon_append (common as bs : List α) :
    dropCommon (common ++ as) (common ++ bs) = dropCommon as bs := by
  induction common with
  | nil => rfl
  | cons a common ih => rw [List.cons_append, List.cons_append, dropCommon, if_pos rfl, ih]

lemma Parted.dropCommon_eq (h : Parted up down) : dropCommon up down = (up, down) := by
  match up, down with
  | [], _ => rw [dropCommon]; simp
  | _ :: _, [] => rw [dropCommon]; simp
  | a :: as, b :: bs =>
    have hne : a ≠ b := fun hab => h a rfl (congrArg some hab.symm)
    rw [dropCommon, if_neg hne]

/-- How many elements the lists have after their common start. -/
def apart (as bs : List α) : Nat := (dropCommon as bs).1.length + (dropCommon as bs).2.length

lemma apart_append (common as bs : List α) : apart (common ++ as) (common ++ bs) = apart as bs := by
  rw [apart, dropCommon_append, apart]

lemma Parted.apart_eq (h : Parted up down) : apart up down = up.length + down.length := by
  rw [apart, h.dropCommon_eq]

lemma apart_self (as : List α) : apart as as = 0 := by
  have hnil := apart_append as [] []
  rw [List.append_nil] at hnil
  rw [hnil, apart, dropCommon]
  · rfl
  · simp

/-- Lists are apart by no more than what they have after any common start. -/
lemma apart_append_le (common as bs : List α) :
    apart (common ++ as) (common ++ bs) ≤ as.length + bs.length := by
  obtain ⟨more, up, down, rfl, rfl, hparted⟩ := exists_common as bs
  rw [apart_append, apart_append, hparted.apart_eq, List.length_append, List.length_append]
  omega

/-- With one element more at its end a list comes closer to another one by at most one. -/
lemma apart_le_apart_concat (as bs : List α) (a : α) : apart as bs ≤ apart (as ++ [a]) bs + 1 := by
  obtain ⟨common, up, down, has, rfl, hparted⟩ := exists_common (as ++ [a]) bs
  rw [has, apart_append, hparted.apart_eq]
  rcases List.eq_nil_or_concat up with rfl | ⟨front, last, rfl⟩
  · -- the new element is the last one of the common start
    rw [List.append_nil] at has
    rw [← has, List.append_assoc]
    have h := apart_append_le as [] ([a] ++ down)
    rw [List.append_nil] at h
    simpa using h
  · rw [List.concat_eq_append, ← List.append_assoc] at has
    rw [List.append_inj_left' has rfl]
    have h := apart_append_le common front down
    rw [List.length_concat]
    omega

/-- With one element less it comes closer by at most one, too. -/
lemma apart_concat_le (as bs : List α) (a : α) : apart (as ++ [a]) bs ≤ apart as bs + 1 := by
  obtain ⟨common, up, down, rfl, rfl, hparted⟩ := exists_common as bs
  have h := apart_append_le common (up ++ [a]) down
  rw [List.length_append, List.length_singleton] at h
  rw [apart_append, hparted.apart_eq, List.append_assoc]
  omega

end

/-! ### Coming closer to a target -/

/-- A single component brings one closer to the names of a target by at most one. -/
lemma apart_le_apart_push_add_one (way : Way) (names : List Name) (c : Component) :
    apart way.down names ≤ apart (way.push c).down names + 1 := by
  cases c with
  | root | current => exact Nat.le_succ _
  | name name => exact apart_le_apart_concat way.down names name
  | parent =>
    rw [Way.push]
    split
    · next hnil =>
      rw [hnil]
      exact Nat.le_succ _
    · next hne =>
      have h := apart_concat_le way.down.dropLast names (way.down.getLast hne)
      rwa [List.dropLast_concat_getLast] at h

/-- So there are at least as many components as names by which one comes closer. -/
lemma apart_le_apart_foldl_push (way : Way) (names : List Name) (cs : List Component) :
    apart way.down names ≤ apart (cs.foldl Way.push way).down names + cs.length := by
  induction cs generalizing way with
  | nil => exact Nat.le_refl _
  | cons c cs ih =>
    calc apart way.down names
        ≤ apart (way.push c).down names + 1 := apart_le_apart_push_add_one way names c
      _ ≤ apart (cs.foldl Way.push (way.push c)).down names + cs.length + 1 :=
          Nat.succ_le_succ (ih (way.push c))

lemma length_filterMap_pieces_le (q : Path) :
    (q.pieces.filterMap component?).length ≤ q.components.length := by
  obtain ⟨piece, more, hpieces⟩ := List.exists_cons_of_ne_nil (pieces_ne_nil q)
  rw [components, hpieces]
  simp only [List.length_append]
  rcases leading_cases hpieces with hsame | ⟨hnone, -⟩
  · rw [hsame]
    cases hpiece : component? piece <;> simp [hpiece, Nat.add_comm]
  · rw [List.filterMap_cons_none hnone]
    exact Nat.le_add_left _ _

/-! ### Going up and then down -/

/-- The path that goes up the given number of times and then down over the names. -/
def climb (up : Nat) (down : List Name) : Path :=
  ⟨[slash].intercalate (List.replicate up [dot, dot] ++ down)⟩

section Climb

variable {up : Nat} {down : List Name} (h : ∀ name ∈ down, IsName name)

include h

lemma pieces_climb (hne : List.replicate up [dot, dot] ++ down ≠ []) :
    (climb up down).pieces = List.replicate up [dot, dot] ++ down := by
  refine pieces_intercalate hne fun piece hpiece => ?_
  rcases List.mem_append.mp hpiece with hdots | hname
  · rw [List.eq_of_mem_replicate hdots]
    decide
  · exact (h piece hname).slash_not_mem

lemma filterMap_component?_steps :
    (List.replicate up [dot, dot] ++ down).filterMap component? =
      List.replicate up .parent ++ down.map .name := by
  have hdots : component? [dot, dot] = some .parent := rfl
  rw [List.filterMap_append, filterMap_component?_names h, List.filterMap_replicate_of_some hdots]

lemma filterMap_component?_pieces_climb :
    (climb up down).pieces.filterMap component? = List.replicate up .parent ++ down.map .name := by
  rw [← filterMap_component?_steps h]
  by_cases hnil : List.replicate up [dot, dot] ++ down = []
  · rw [climb, hnil]
    rfl
  · rw [pieces_climb h hnil]

/-- The first piece stands for a component at any place. -/
lemma components_climb :
    (climb up down).components = List.replicate up .parent ++ down.map .name := by
  rw [← filterMap_component?_pieces_climb h]
  cases hsteps : List.replicate up [dot, dot] ++ down with
  | nil =>
    rw [climb, hsteps]
    rfl
  | cons piece more =>
    have hpieces := pieces_climb h (hsteps ▸ List.cons_ne_nil piece more)
    have hpiece : piece = [dot, dot] ∨ IsName piece := by
      have hmem : piece ∈ List.replicate up [dot, dot] ++ down := by simp [hsteps]
      rcases List.mem_append.mp hmem with hdots | hname
      · exact .inl (List.eq_of_mem_replicate hdots)
      · exact .inr (h piece hname)
    rw [hsteps] at hpieces
    rcases hpiece with rfl | hname
    · exact components_eq_filterMap hpieces (by decide) (by decide)
    · exact components_eq_filterMap hpieces hname.ne_nil hname.ne_dot

lemma isAbsolute_climb : (climb up down).isAbsolute = false := by
  rw [← Bool.not_eq_true]
  intro habsolute
  obtain ⟨cs, -, hcomponents⟩ := exists_components_eq (climb up down)
  rw [components_climb h, base, if_pos habsolute] at hcomponents
  have hroot : Component.root ∈ List.replicate up .parent ++ down.map .name := by
    simp [hcomponents]
  simp at hroot

lemma components_climb_eq_nil_iff : (climb up down).components = [] ↔ up = 0 ∧ down = [] := by
  rw [components_climb h]
  simp

end Climb

namespace Way

lemma foldl_push_parents (way : Way) {front back : List Name} (h : way.down = front ++ back) :
    (List.replicate back.length .parent).foldl push way = ⟨way.up, front⟩ := by
  induction back using List.reverseRecOn generalizing way with
  | nil =>
    rw [List.append_nil] at h
    rw [← h]
    rfl
  | append_singleton back last ih =>
    rw [← List.append_assoc] at h
    have hpush : way.push .parent = ⟨way.up, front ++ back⟩ := by
      simp [push, h]
    rw [List.length_append, List.length_singleton, List.replicate_succ, List.foldl_cons, hpush,
      ih ⟨way.up, front ++ back⟩ rfl]

lemma foldl_push_names (way : Way) (names : List Name) :
    (names.map .name).foldl push way = ⟨way.up, way.down ++ names⟩ := by
  induction names generalizing way with
  | nil => simp
  | cons name names ih => simp [push, ih]

end Way

/-- Going up over the last names of a path and then down replaces the ones by the others. -/
lemma way_join_climb {common up down : List Name} (h : ∀ name ∈ down, IsName name)
    (hup : dir.way.down = common ++ up) :
    (dir.join (climb up.length down)).way = ⟨dir.way.up, common ++ down⟩ := by
  rw [way_join (isAbsolute_climb h), filterMap_component?_pieces_climb h, List.foldl_append,
    Way.foldl_push_parents dir.way hup, Way.foldl_push_names]

/-! ### The way as a path -/

/-- From a directory one goes up to the common start, and then down. -/
lemma exists_wayTo_eq (hroot : dir.isAbsolute = target.isAbsolute) :
    ∃ common up down, dir.way.down = common ++ up ∧ target.way.down = common ++ down ∧
      Parted up down ∧
      dir.wayTo target = List.replicate up.length ".." ++ down.map Text.lossy := by
  obtain ⟨common, up, down, hup, hdown, hparted⟩ := exists_common dir.way.down target.way.down
  refine ⟨common, up, down, hup, hdown, hparted, ?_⟩
  have hnames : Parted (up.map Component.name) (down.map Component.name) :=
    hparted.map fun _ _ => Component.name.inj
  rw [wayTo, normalComponents_eq, normalComponents_eq, base_eq_iff.mpr hroot, hup, hdown,
    List.map_append, List.map_append, ← List.append_assoc, ← List.append_assoc, dropCommon_append,
    hnames.dropCommon_eq]
  simp [Component.text, Component.bytes, Function.comp_def, List.map_const']

/-- A segment of the way goes up, or it is one of the components of the target. -/
lemma eq_or_exists_of_mem_wayTo {segment : String} (h : segment ∈ dir.wayTo target) :
    segment = ".." ∨ ∃ c ∈ target.normalComponents, c.text = segment := by
  obtain ⟨common, up, down, hup, hdown, hparted⟩ :=
    exists_common dir.normalComponents target.normalComponents
  rw [wayTo, hup, hdown, dropCommon_append, hparted.dropCommon_eq] at h
  rcases List.mem_append.mp h with h | h
  · obtain ⟨c, -, rfl⟩ := List.mem_map.mp h
    exact .inl rfl
  · obtain ⟨c, hc, rfl⟩ := List.mem_map.mp h
    exact .inr ⟨c, by simp [hdown, hc], rfl⟩

/-- The segments of the way to a relative target are cut at every slash. -/
lemma segment_of_mem_wayTo (htarget : target.isAbsolute = false) {segment : String}
    (h : segment ∈ dir.wayTo target) : segment.toList ≠ [] ∧ '/' ∉ segment.toList := by
  rcases eq_or_exists_of_mem_wayTo h with rfl | ⟨c, hc, rfl⟩
  · decide
  · rw [normalComponents_eq, base, htarget, if_neg Bool.false_ne_true, List.nil_append] at hc
    obtain ⟨name, hname, rfl⟩ := List.mem_map.mp hc
    have hisName : IsName name := isName_of_mem_way_down hname
    rw [Component.text, Component.bytes]
    refine ⟨?_, fun hslash => ?_⟩
    · rw [Ne, String.toList_eq_nil_iff]
      exact Text.lossy_ne_empty hisName.ne_nil
    · obtain ⟨b, hb, hbyte⟩ := Text.exists_byte_of_mem_lossy (by decide) (by decide) hslash
      have hb' : b = slash := UInt8.toNat_inj.mp hbyte
      exact hisName.slash_not_mem (hb' ▸ hb)

lemma ofString_relativeTo_eq {up down : List Name} (hnames : target.HasTextNames)
    (hdown : ∀ name ∈ down, name ∈ target.way.down)
    (h : dir.wayTo target = List.replicate up.length ".." ++ down.map Text.lossy) :
    ofString (dir.relativeTo target) = climb up.length down := by
  have hbytes : ∀ name ∈ down, Text.bytes (Text.lossy name) = name := by
    intro name hname
    obtain ⟨s, hs⟩ := hnames name (name_mem_components (hdown name hname))
    rw [← hs, Text.lossy_bytes]
  have hdots : Text.bytes ".." = [dot, dot] := by decide
  rw [ofString, relativeTo, Text.bytes_intercalate_slash, h, climb, List.map_append,
    List.map_replicate, hdots, List.map_map]
  congr 3
  exact (List.map_congr_left hbytes).trans (List.map_id down)

/-- The way goes up over what the directory has after the longest common start of the two normal
forms, and down over what the target has after it. -/
lemma exists_relativeTo_eq (hroot : dir.isAbsolute = target.isAbsolute) :
    ∃ common up down, dir.normalize.components = common ++ up ∧
      target.normalize.components = common ++ down ∧ Parted up down ∧
      dir.relativeTo target =
        "/".intercalate (List.replicate up.length ".." ++ down.map Component.text) := by
  obtain ⟨common, up, down, hup, hdown, hparted, hway⟩ := exists_wayTo_eq hroot
  refine ⟨dir.base ++ common.map .name, up.map .name, down.map .name, ?_, ?_,
    hparted.map fun _ _ => Component.name.inj, ?_⟩
  · rw [components_normalize, normalComponents_eq, hup, List.map_append, List.append_assoc]
  · rw [components_normalize, normalComponents_eq, hdown, List.map_append, List.append_assoc,
      base_eq_iff.mpr hroot]
  · rw [relativeTo, hway, List.length_map, List.map_map]
    rfl

/-- A relative path that leads to the target has a component for each one by which the directory and
the target are apart. -/
lemma apart_le_length_of_normalize_join {q : Path} (hq : q.isAbsolute = false)
    (h : (dir.join q).normalize = target.normalize) :
    apart dir.way.down target.way.down ≤ q.components.length := by
  rw [normalize_eq_iff, way_join hq] at h
  calc apart dir.way.down target.way.down
      ≤ apart ((q.pieces.filterMap component?).foldl Way.push dir.way).down target.way.down +
          (q.pieces.filterMap component?).length := apart_le_apart_foldl_push _ _ _
    _ = (q.pieces.filterMap component?).length := by rw [h.2, apart_self, Nat.zero_add]
    _ ≤ q.components.length := length_filterMap_pieces_le q

/-- The way from a directory to a target, as a path that is joined to the directory, leads to the
target. It goes up over the components that the directory has after the longest common start of the
two normal forms, and down over those of the target, so it is empty only if there are none. No
relative path that leads to the target has fewer components. -/
theorem normalize_join_relativeTo_shortest (dir target : Path)
    (hroot : dir.isAbsolute = target.isAbsolute) (hnames : target.HasTextNames) :
    let relative := Path.ofString (dir.relativeTo target)
    (dir.join relative).normalize = target.normalize ∧
    (∃ common up down, dir.normalize.components = common ++ up ∧
      target.normalize.components = common ++ down ∧ Parted up down ∧
      dir.relativeTo target =
        "/".intercalate (List.replicate up.length ".." ++ down.map Component.text)) ∧
    (∀ q : Path, q.isAbsolute = false → (dir.join q).normalize = target.normalize →
      relative.components.length ≤ q.components.length) ∧
    (dir.relativeTo target = "" ↔ dir.normalize = target.normalize) := by
  intro relative
  obtain ⟨common, up, down, hup, hdown, hparted, hway⟩ := exists_wayTo_eq hroot
  have hmem : ∀ name ∈ down, name ∈ target.way.down := fun name h => by simp [hdown, h]
  have hisName : ∀ name ∈ down, IsName name := fun name h => isName_of_mem_way_down (hmem name h)
  have hrelative : relative = climb up.length down := ofString_relativeTo_eq hnames hmem hway
  refine ⟨?leads, exists_relativeTo_eq hroot, ?shortest, ?empty⟩
  case leads =>
    rw [normalize_eq_iff, hrelative, isAbsolute_join (isAbsolute_climb hisName),
      way_join_climb hisName hup, hdown]
    exact ⟨hroot, rfl⟩
  case shortest =>
    intro q hq hleads
    calc relative.components.length
        = up.length + down.length := by
          rw [hrelative, components_climb hisName]
          simp
      _ = apart dir.way.down target.way.down := by
          rw [hup, hdown, apart_append, hparted.apart_eq]
      _ ≤ q.components.length := apart_le_length_of_normalize_join hq hleads
  case empty =>
    rw [normalize_eq_iff, hup, hdown, List.append_right_inj]
    constructor
    · intro h
      have hcomponents : relative.components = [] := congrArg (fun s => (ofString s).components) h
      rw [hrelative, components_climb_eq_nil_iff hisName] at hcomponents
      exact ⟨hroot, (List.length_eq_zero_iff.mp hcomponents.1).trans hcomponents.2.symm⟩
    · rintro ⟨-, rfl⟩
      rw [relativeTo, hway, hparted.eq_nil]
      rfl

/-- From a directory that goes up beyond the start to a target with a detour, both spelled with
pieces that do not count. -/
theorem normalize_join_relativeTo_shortest_detour :
    let dir := ofString "../a/./b//c/"
    let target := ofString "x/../a//é.md"
    dir.isAbsolute = target.isAbsolute ∧ target.HasTextNames ∧
      dir.relativeTo target = "../../é.md" ∧ dir.normalize ≠ target.normalize ∧
      (dir.join (ofString "../../é.md")).normalize = target.normalize ∧
      ∀ q : Path, q.isAbsolute = false → (dir.join q).normalize = target.normalize →
        3 ≤ q.components.length := by
  intro dir target
  have hroot : dir.isAbsolute = target.isAbsolute := by decide
  have hnames : target.HasTextNames := by
    intro bytes hbytes
    have hcomponents : target.components = [.name (Text.bytes "x"), .parent,
        .name (Text.bytes "a"), .name (Text.bytes "é.md")] := by decide +kernel
    rw [hcomponents] at hbytes
    simp at hbytes
    rcases hbytes with rfl | rfl | rfl
    · exact ⟨"x", rfl⟩
    · exact ⟨"a", rfl⟩
    · exact ⟨"é.md", rfl⟩
  have hrelative : dir.relativeTo target = "../../é.md" := by decide +kernel
  have hlength : (ofString "../../é.md").components.length = 3 := by decide +kernel
  obtain ⟨hleads, -, hshortest, hempty⟩ :=
    normalize_join_relativeTo_shortest dir target hroot hnames
  rw [hrelative] at hleads hempty
  rw [hrelative, hlength] at hshortest
  exact ⟨hroot, hnames, hrelative, fun h => absurd (hempty.mpr h) (by decide), hleads, hshortest⟩

end OutlineLint.Path

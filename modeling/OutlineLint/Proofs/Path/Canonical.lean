import OutlineLint.Proofs.Path.Normal
import OutlineLint.Proofs.Text.Utf8

/-!
# Canonical forms of paths

A normal form has no `.` and no `..`, and whatever spells components without these is read back as it
is (`normalComponents_eq_components`). So the normal form stands for the path wherever another one is
joined to it (`normalize_join`), and the displayed form, read as a path, has its components
(`components_displayed`): paths are displayed alike exactly if they have one normal form
(`normalize_canonical`). An absolute path is displayed with two slashes at its start, the root with
one.
-/

namespace OutlineLint.Path

variable {p q : Path}

/-! ### Components without detours -/

/-- None of the components is the current directory, and none leads up. -/
structure Straight (cs : List Component) : Prop where
  current_not_mem : .current ∉ cs
  parent_not_mem : .parent ∉ cs

lemma straight_normalComponents (p : Path) : Straight p.normalComponents := by
  rw [normalComponents_eq, base]
  split <;> exact ⟨by simp, by simp⟩

lemma foldl_pushComponent_of_straight {cs : List Component} (h : Straight cs)
    (stack : List Component) : cs.foldl pushComponent stack = cs.reverse ++ stack := by
  induction cs generalizing stack with
  | nil => rfl
  | cons c cs ih =>
    obtain ⟨hcurrent, hparent⟩ := h
    rw [List.mem_cons, not_or] at hcurrent hparent
    rw [List.foldl_cons, ih ⟨hcurrent.2, hparent.2⟩, List.reverse_cons, List.append_assoc]
    congr 1
    cases c with
    | current => exact absurd rfl hcurrent.1
    | parent => exact absurd rfl hparent.1
    | root | name bytes => rfl

/-- A path without detours is normal but for its spelling. -/
lemma normalComponents_eq_components (h : Straight p.components) :
    p.normalComponents = p.components := by
  rw [normalComponents, foldl_pushComponent_of_straight h, List.append_nil, List.reverse_reverse]

/-- Whatever spells the components of a normal form has this normal form. -/
lemma normalComponents_congr (h : q.components = p.normalComponents) :
    q.normalComponents = p.normalComponents := by
  have hstraight : Straight q.components := h ▸ straight_normalComponents p
  rw [normalComponents_eq_components hstraight, h]

lemma normalComponents_normalize (p : Path) :
    p.normalize.normalComponents = p.normalComponents :=
  normalComponents_congr (components_normalize p)

lemma normalize_eq_iff_normalComponents :
    p.normalize = q.normalize ↔ p.normalComponents = q.normalComponents :=
  normalize_eq_iff.trans normalComponents_eq_iff.symm

/-! ### Joining to a normal form -/

/-- The names that one goes down over in the end do not depend on how often one went up before. -/
lemma Way.down_foldl_push_congr {v w : Way} (h : v.down = w.down) (cs : List Component) :
    (cs.foldl push v).down = (cs.foldl push w).down := by
  induction cs generalizing v w with
  | nil => exact h
  | cons c cs ih =>
    apply ih
    cases c with
    | root | current => exact h
    | name bytes => simp [push, h]
    | parent =>
      rw [push, push, h]
      split <;> rfl

lemma normalize_join (p q : Path) : (p.join q).normalize = (p.normalize.join q).normalize := by
  cases hq : q.isAbsolute with
  | true => rw [join, join, hq, if_pos rfl, if_pos rfl]
  | false =>
    obtain ⟨habsolute, hdown⟩ := normalComponents_eq_iff.mp (normalComponents_normalize p)
    rw [normalize_eq_iff, isAbsolute_join hq, isAbsolute_join hq, way_join hq, way_join hq]
    exact ⟨habsolute.symm, Way.down_foldl_push_congr hdown.symm _⟩

/-! ### The displayed form as a path -/

lemma components_displayed (h : p.HasTextNames) :
    p.displayed.components = p.normalComponents := by
  have hnames : ∀ name ∈ p.way.down, IsName name := fun name h => isName_of_mem_way_down h
  by_cases hnil : p.way.down = []
  · -- nothing but the base is spelled
    have hbytes : p.displayed.bytes = [slash].intercalate (p.base.map Component.bytes) := by
      rw [bytes_displayed h, normalComponents_eq, hnil, List.map_nil, List.append_nil]
    have hpath : p.displayed = ⟨[slash].intercalate (p.base.map Component.bytes)⟩ :=
      congrArg Path.mk hbytes
    rw [hpath, normalComponents_eq, hnil, base]
    split <;> rfl
  · rw [normalComponents_eq, base, ← filterMap_component?_names hnames]
    cases habsolute : p.isAbsolute with
    | false =>
      have hpieces := pieces_displayed h hnil habsolute
      obtain ⟨name, more, hdown⟩ := List.exists_cons_of_ne_nil hnil
      have hname : IsName name := hnames name (hdown ▸ List.mem_cons_self)
      rw [components_eq_filterMap (hpieces.trans hdown) hname.ne_nil hname.ne_dot, hpieces]
      rfl
    | true =>
      have hbytes := displayed_bytes_ne_nil h hnil
      rw [components_of_pieces_eq_cons hbytes (pieces_displayed_absolute h hnil habsolute)]
      rfl

lemma display_congr (h : p.normalComponents = q.normalComponents) : p.display = q.display := by
  rw [display, display, h]

lemma display_displayed (h : p.HasTextNames) : p.displayed.display = p.display :=
  display_congr (normalComponents_congr (components_displayed h))

/-- Paths are displayed alike only if they have the same normal form. -/
lemma display_eq_iff (hp : p.HasTextNames) (hq : q.HasTextNames) :
    p.display = q.display ↔ p.normalize = q.normalize := by
  rw [normalize_eq_iff_normalComponents]
  constructor
  · intro h
    rw [← components_displayed hp, displayed, h, ← components_displayed hq, displayed]
  · exact display_congr

/-! ### Slashes at the start -/

lemma normalComponents_of_isAbsolute (h : p.isAbsolute = true) :
    p.normalComponents = .root :: p.way.down.map .name := by
  rw [normalComponents_eq, base, if_pos h, List.singleton_append]

lemma components_normalize_eq_root_iff (h : p.isAbsolute = true) :
    p.normalize.components = [.root] ↔ p.way.down = [] := by
  rw [components_normalize, normalComponents_of_isAbsolute h]
  simp

lemma display_of_way_down_eq_nil (h : p.isAbsolute = true) (hnil : p.way.down = []) :
    p.display = "/" := by
  rw [display, normalComponents_of_isAbsolute h, hnil]
  decide

/-- The root component is itself a slash, and another one separates it from the first name. -/
lemma display_of_way_down_ne_nil (h : p.isAbsolute = true) (hne : p.way.down ≠ []) :
    p.display = "//" ++ "/".intercalate (p.way.down.map Text.lossy) := by
  have hroot : Component.root.text = "/" := by decide
  obtain ⟨name, more, hdown⟩ := List.exists_cons_of_ne_nil hne
  rw [display, normalComponents_of_isAbsolute h, hdown, List.map_cons, hroot, List.map_map,
    List.map_cons, String.intercalate_cons_cons, List.map_cons]
  rfl

lemma slashes_display (h : p.isAbsolute = true) :
    if p.normalize.components = [.root] then p.display = "/"
    else "//".toList <+: p.display.toList := by
  split
  · next hroot =>
    exact display_of_way_down_eq_nil h ((components_normalize_eq_root_iff h).mp hroot)
  · next hroot =>
    rw [components_normalize_eq_root_iff h] at hroot
    rw [display_of_way_down_ne_nil h hroot, String.toList_append]
    exact List.prefix_append _ _

/-! ### Paths spelled by texts -/

/-- The UTF-8 form of a text is cut at slashes as the text is. -/
lemma pieces_ofString (s : String) : (ofString s).pieces =
    ((s.toList.splitOn '/').map String.ofList).map Text.bytes := by
  have htext : "/".intercalate ((s.toList.splitOn '/').map String.ofList) = s := by
    apply String.toList_injective
    rw [String.toList_intercalate, List.map_map]
    simp [Function.comp_def]
  have hslash : String.utf8EncodeChar '/' = [slash] := rfl
  have hbytes := Text.bytes_intercalate_slash ((s.toList.splitOn '/').map String.ofList)
  rw [htext] at hbytes
  rw [ofString, hbytes]
  refine pieces_intercalate (by simp) fun piece hpiece => ?_
  obtain ⟨text, htext, rfl⟩ := List.mem_map.mp hpiece
  obtain ⟨segment, hsegment, rfl⟩ := List.mem_map.mp htext
  rw [Text.mem_bytes_iff hslash, String.toList_ofList]
  exact Text.not_mem_of_mem_splitOn hsegment

/-- Every path that a text spells has texts as names. -/
lemma hasTextNames_ofString (s : String) : (ofString s).HasTextNames := by
  intro bytes hbytes
  have hname : bytes ∈ (ofString s).components.filterMap Component.name? :=
    List.mem_filterMap.mpr ⟨.name bytes, hbytes, rfl⟩
  rw [filterMap_name?_components, pieces_ofString] at hname
  obtain ⟨text, -, htext⟩ := List.mem_map.mp (List.mem_filter.mp hname).1
  exact ⟨text, htext⟩

/-! ### Canonical forms -/

/-- The normal form has neither `.` nor `..`, and it can take the place of a path to which another
one is joined. The displayed form, taken as a path, has the components of the normal form, also if
the path is absolute: then it starts with two slashes, unless it is the root alone. So displaying
it again gives the same, and two paths are displayed alike exactly if they have the same normal
form, which is known by its components. -/
theorem normalize_canonical (p q : Path) (hp : p.HasTextNames) (hq : q.HasTextNames) :
    (.current ∉ p.normalize.components ∧ .parent ∉ p.normalize.components) ∧
    (p.join q).normalize = (p.normalize.join q).normalize ∧
    (ofString p.display).components = p.normalize.components ∧
    (p.isAbsolute = true →
      if p.normalize.components = [.root] then p.display = "/"
      else "//".toList <+: p.display.toList) ∧
    (ofString p.display).display = p.display ∧
    (p.display = q.display ↔ p.normalize = q.normalize) ∧
    (p.normalize = q.normalize ↔ p.normalize.components = q.normalize.components) := by
  have hstraight := straight_normalComponents p
  refine ⟨?straight, normalize_join p q, ?components, slashes_display, display_displayed hp,
    display_eq_iff hp hq, ?known⟩
  case straight =>
    rw [components_normalize]
    exact ⟨hstraight.current_not_mem, hstraight.parent_not_mem⟩
  case components =>
    rw [components_normalize]
    exact components_displayed hp
  case known =>
    rw [components_normalize, components_normalize, normalize_eq_iff_normalComponents]

/-- An absolute path and a relative one that leads up beyond the root and down again. -/
theorem normalize_canonical_beyond_root :
    let p := ofString "/a/..//./é/b/"
    let q := ofString ".././../../c"
    p.HasTextNames ∧ q.HasTextNames ∧
      (p.join q).normalize = (p.normalize.join q).normalize ∧
      (p.join q).normalize = ofString "/c" ∧ p.isAbsolute = true ∧ p.display = "//é/b" ∧
      (ofString "//é/b").components = p.normalize.components ∧ "//".toList <+: p.display.toList ∧
      (ofString "//é/b").display = "//é/b" ∧ p.display ≠ q.display ∧
      p.normalize ≠ q.normalize := by
  intro p q
  have hp : p.HasTextNames := hasTextNames_ofString _
  have hq : q.HasTextNames := hasTextNames_ofString _
  have hdisplay : p.display = "//é/b" := by decide +kernel
  have hother : p.display ≠ q.display := by decide +kernel
  obtain ⟨-, hjoin, hcomponents, hslashes, hagain, hiff, -⟩ := normalize_canonical p q hp hq
  rw [hdisplay] at hcomponents hagain
  have habsolute : p.isAbsolute = true := by decide
  have hroot : p.normalize.components ≠ [.root] := by decide +kernel
  have hstart := hslashes habsolute
  rw [if_neg hroot] at hstart
  exact ⟨hp, hq, hjoin, by decide +kernel, habsolute, hdisplay, hcomponents, hstart, hagain,
    hother, fun h => hother (hiff.mpr h)⟩

/-- The root is displayed with a single slash. -/
theorem not_slashes_display_root :
    (ofString "/").HasTextNames ∧ (ofString "/").isAbsolute = true ∧
      (ofString "/").display = "/" ∧ ¬ "//".toList <+: (ofString "/").display.toList := by
  have hdisplay : (ofString "/").display = "/" := by decide +kernel
  rw [hdisplay]
  exact ⟨hasTextNames_ofString "/", by decide, rfl, by decide⟩

end OutlineLint.Path

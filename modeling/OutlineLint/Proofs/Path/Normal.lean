import OutlineLint.Proofs.Path.Display

/-!
# Normal forms of joined paths

The components of a normal form are the root, if the path starts there, and the names on the way of
the path (`components_normalize`). So two paths have the same normal form if and only if they start
alike and lead down over the same names (`normalize_eq_iff`). The way of a relative path that is
joined to another path goes on from where the way of that path ends (`way_join`).
-/

namespace OutlineLint.Path

variable {p q : Path}

/-! ### Components of normal forms -/

/-- The normal form is spelled by joining the names on the way to where the path starts. -/
lemma normalize_eq_descend (p : Path) :
    p.normalize = (ofComponents p.base).descend p.way.down := by
  have hnames (q : Path) (names : List Name) :
      (names.map Component.name).foldl (fun q c => q.join ⟨c.bytes⟩) q = q.descend names :=
    List.foldl_map
  rw [normalize, normalComponents_eq, ofComponents, List.foldl_append, hnames]
  rfl

lemma components_ofComponents_base (p : Path) : (ofComponents p.base).components = p.base := by
  rw [base]
  split <;> rfl

lemma components_normalize (p : Path) : p.normalize.components = p.normalComponents := by
  have hnames : ∀ name ∈ p.way.down, IsName name := fun name h => isName_of_mem_way_down h
  rw [normalize_eq_descend, normalComponents_eq, ← filterMap_component?_names hnames]
  nth_rewrite 2 [← components_ofComponents_base]
  cases hdown : p.way.down with
  | nil => simp
  | cons name more =>
    rw [hdown] at hnames
    have hpieces := pieces_descend hnames (List.cons_ne_nil _ _) (ofComponents p.base)
    by_cases hbytes : (ofComponents p.base).bytes = []
    · have hname := hnames name List.mem_cons_self
      rw [stem_of_bytes_eq_nil hbytes, List.nil_append] at hpieces
      rw [components_of_bytes_eq_nil hbytes, List.nil_append,
        components_eq_filterMap hpieces hname.ne_nil hname.ne_dot, hpieces]
    · exact components_of_pieces_eq_append hbytes (List.cons_ne_nil _ _) hpieces

lemma base_eq_iff : p.base = q.base ↔ p.isAbsolute = q.isAbsolute := by
  rw [base, base]
  cases p.isAbsolute <;> cases q.isAbsolute <;> simp

lemma filterMap_name?_normalComponents (p : Path) :
    p.normalComponents.filterMap Component.name? = p.way.down := by
  have hbase : p.base.filterMap Component.name? = [] := by
    rw [base]
    split <;> rfl
  rw [normalComponents_eq, List.filterMap_append, hbase, List.nil_append, List.filterMap_map]
  exact List.filterMap_some

lemma normalComponents_eq_iff :
    p.normalComponents = q.normalComponents ↔
      p.isAbsolute = q.isAbsolute ∧ p.way.down = q.way.down := by
  constructor
  · intro h
    have hdown : p.way.down = q.way.down := by
      rw [← filterMap_name?_normalComponents, h, filterMap_name?_normalComponents]
    rw [normalComponents_eq, normalComponents_eq, hdown] at h
    exact ⟨base_eq_iff.mp (List.append_cancel_right h), hdown⟩
  · rintro ⟨habsolute, hdown⟩
    rw [normalComponents_eq, normalComponents_eq, base_eq_iff.mpr habsolute, hdown]

/-- Two paths have the same normal form if they start alike and lead down over the same names. -/
lemma normalize_eq_iff :
    p.normalize = q.normalize ↔ p.isAbsolute = q.isAbsolute ∧ p.way.down = q.way.down := by
  rw [← normalComponents_eq_iff]
  constructor
  · intro h
    rw [← components_normalize, h, components_normalize]
  · exact congrArg ofComponents

/-! ### Joined paths -/

lemma filterMap_component?_stem (p : Path) :
    p.stem.filterMap component? = p.pieces.filterMap component? := by
  rw [stem]
  split
  · next hlast =>
    obtain ⟨init, hinit⟩ := List.getLast?_eq_some_iff.mp hlast
    rw [hinit, List.dropLast_concat, List.filterMap_append]
    simp [component?]
  · rfl

lemma way_join (hq : q.isAbsolute = false) (p : Path) :
    (p.join q).way = (q.pieces.filterMap component?).foldl Way.push p.way := by
  rw [way_eq, pieces_join hq, List.filterMap_append, filterMap_component?_stem, List.foldl_append,
    ← way_eq]

end OutlineLint.Path

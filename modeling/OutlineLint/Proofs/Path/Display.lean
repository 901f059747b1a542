import OutlineLint.Path.Normal
import OutlineLint.Proofs.Path.Join

/-!
# What a displayed path spells

Going along the components of a path takes one up and down. What counts in the end is how often the
path goes up beyond where it starts, and the names that it goes down from there (`way`). The form in
which a path is displayed spells the names alone (`pieces_displayed`). So it tells the whole way of a
relative path if this never goes up more often than it has gone down before
(`staysBelow_iff_way_up_eq_zero`).
-/

namespace OutlineLint

/-! ### Texts between slashes -/

lemma Text.bytes_intercalate_slash (texts : List String) :
    bytes ("/".intercalate texts) = [Path.slash].intercalate (texts.map bytes) := by
  induction texts with
  | nil => rfl
  | cons s texts ih =>
    cases texts with
    | nil => simp
    | cons t texts =>
      rw [List.map_cons, List.intercalate_cons_of_ne_nil (by simp), ← ih,
        String.intercalate_cons_cons, bytes_append, bytes_append]
      rfl

namespace Path

variable {p : Path} {cs : List Component}

/-! ### The way along components -/

/-- How often one has gone up beyond the start, and the names on the way down from there. -/
structure Way where
  up : Nat
  down : List Name
  deriving DecidableEq, Repr

namespace Way

/-- Goes on over one more component. -/
def push (way : Way) : Component → Way
  | .name name => ⟨way.up, way.down ++ [name]⟩
  | .parent => if way.down = [] then ⟨way.up + 1, []⟩ else ⟨way.up, way.down.dropLast⟩
  | .root | .current => way

/-- The way from the start to the start. -/
def start : Way := ⟨0, []⟩

end Way

/-- The way of a path. -/
def way (p : Path) : Way := p.components.foldl Way.push .start

/-- The name of a component, if it is one. -/
def Component.name? : Component → Option Name
  | .name bytes => some bytes
  | .root | .current | .parent => none

/-- No beginning of the path goes up more often than it goes down over names. -/
def StaysBelow (p : Path) : Prop :=
  ∀ cs, cs <+: p.components → cs.count .parent ≤ (cs.filterMap Component.name?).length

/-- Going up beyond the start is never undone. -/
lemma Way.up_le_foldl_push (way : Way) (cs : List Component) : way.up ≤ (cs.foldl push way).up := by
  induction cs generalizing way with
  | nil => exact Nat.le_refl _
  | cons c cs ih =>
    refine Nat.le_trans ?_ (ih (way.push c))
    cases c with
    | root | current => exact Nat.le_refl _
    | name bytes => exact Nat.le_refl _
    | parent =>
      rw [push]
      split
      · exact Nat.le_succ _
      · exact Nat.le_refl _

lemma forall_prefix_cons_iff {c : Component} {good : List Component → Prop} :
    (∀ done, done <+: c :: cs → good done) ↔
      good [] ∧ ∀ done, done <+: cs → good (c :: done) := by
  simp only [List.prefix_cons_iff]
  constructor
  · intro h
    exact ⟨h [] (.inl rfl), fun done hdone => h (c :: done) (.inr ⟨done, rfl, hdone⟩)⟩
  · rintro ⟨hnil, hcons⟩ done (rfl | ⟨rest, rfl, hrest⟩)
    · exact hnil
    · exact hcons rest hrest

/-- Over components that are gone along from some way, one does not go up beyond its start again if
there are always names left to take back. -/
lemma Way.up_foldl_push_eq_iff (way : Way) (cs : List Component) :
    (cs.foldl push way).up = way.up ↔ ∀ done, done <+: cs →
      done.count .parent ≤ way.down.length + (done.filterMap Component.name?).length := by
  induction cs generalizing way with
  | nil => simp
  | cons c cs ih =>
    rw [List.foldl_cons, forall_prefix_cons_iff]
    cases c with
    | root | current => simpa [push, Component.name?, List.filterMap_cons] using ih way
    | name bytes =>
      have hdown := ih (way.push (.name bytes))
      simpa [push, Component.name?, List.filterMap_cons, Nat.add_assoc, Nat.add_comm 1] using hdown
    | parent =>
      by_cases hnil : way.down = []
      · -- the start is left for good
        have hup := (way.push .parent).up_le_foldl_push cs
        have hnever : ¬ ∀ done, done <+: cs → (Component.parent :: done).count .parent ≤
            way.down.length + ((Component.parent :: done).filterMap Component.name?).length := by
          intro h
          simpa [hnil, Component.name?, List.filterMap_cons] using h [] List.nil_prefix
        rw [push, if_pos hnil] at hup ⊢
        refine iff_of_false (fun h => ?_) fun h => hnever h.2
        rw [h] at hup
        exact Nat.not_succ_le_self way.up hup
      · have hlength : 0 < way.down.length := List.length_pos_of_ne_nil hnil
        rw [push, if_neg hnil, ih]
        simp only [List.count_cons_self, List.filterMap_cons, Component.name?, List.length_dropLast,
          List.count_nil, Nat.zero_le, true_and]
        refine forall₂_congr fun done _ => ?_
        omega

lemma staysBelow_iff_way_up_eq_zero : p.StaysBelow ↔ p.way.up = 0 := by
  have h := Way.up_foldl_push_eq_iff .start p.components
  simpa [StaysBelow, way, Way.start] using h.symm

/-! ### The names on the way down -/

/-- Only names on the way are left in the end, and in their order. -/
lemma Way.down_foldl_push_sublist (way : Way) (cs : List Component) :
    (cs.foldl push way).down.Sublist (way.down ++ cs.filterMap Component.name?) := by
  induction cs generalizing way with
  | nil => simp
  | cons c cs ih =>
    refine (ih (way.push c)).trans ?_
    cases c with
    | root | current => simp [push, Component.name?, List.filterMap_cons]
    | name bytes => simp [push, Component.name?]
    | parent =>
      simp only [push, Component.name?, List.filterMap_cons]
      refine List.Sublist.append_right ?_ _
      split
      · exact List.nil_sublist _
      · exact List.dropLast_sublist _

lemma name?_component? {piece : List UInt8} (h : slash ∉ piece) :
    (component? piece).bind Component.name? = Option.guard (fun piece => IsName piece) piece := by
  by_cases hname : IsName piece
  · simp [hname.component?_eq, Component.name?, Option.guard, hname]
  · have hnone : (component? piece).bind Component.name? = none := by
      by_cases hvoid : piece = [] ∨ piece = [dot]
      · rcases hvoid with rfl | rfl <;> rfl
      · have hdots : piece = [dot, dot] := by
          by_contra hdots
          rw [not_or] at hvoid
          exact hname ⟨hvoid.1, h, hvoid.2, hdots⟩
        rw [hdots]
        rfl
    simp [hnone, Option.guard, hname]

/-- What the first piece stands for is the same as at any place, but for the root and the current
directory, which do not count on the way. -/
lemma leading_cases {piece : List UInt8} {more : List (List UInt8)} (h : p.pieces = piece :: more) :
    leading p piece = (component? piece).toList ∨
      component? piece = none ∧ (leading p piece = [.root] ∨ leading p piece = [.current]) := by
  rw [leading]
  by_cases habsolute : p.isAbsolute = true
  · have hbytes : p.bytes ≠ [] := by
      intro hnil
      simp [isAbsolute, hnil] at habsolute
    have hpiece : piece = [] := by
      simpa [habsolute] using isAbsolute_of_pieces_eq_cons hbytes h
    rw [if_pos habsolute, hpiece]
    exact .inr ⟨rfl, .inl rfl⟩
  · rw [if_neg habsolute]
    by_cases hdot : piece = [dot]
    · rw [hdot]
      exact .inr ⟨rfl, .inr rfl⟩
    · rw [if_neg (by simpa using hdot)]
      exact .inl rfl

/-- The way of a path as it follows from the pieces. -/
lemma way_eq (p : Path) : p.way = (p.pieces.filterMap component?).foldl Way.push .start := by
  obtain ⟨piece, more, hpieces⟩ := List.exists_cons_of_ne_nil (pieces_ne_nil p)
  rw [way, components, hpieces]
  simp only [List.foldl_append]
  rcases leading_cases hpieces with hsame | ⟨hnone, hroot | hcurrent⟩
  · rw [hsame]
    cases hpiece : component? piece <;> simp [hpiece]
  · rw [hroot, List.filterMap_cons_none hnone]
    rfl
  · rw [hcurrent, List.filterMap_cons_none hnone]
    rfl

/-- The names among the components are those among the pieces. -/
lemma filterMap_name?_components (p : Path) :
    p.components.filterMap Component.name? = p.pieces.filter fun piece => IsName piece := by
  have hpiece : ∀ piece ∈ p.pieces, (component? piece).bind Component.name? =
      Option.guard (fun piece => IsName piece) piece := fun piece hmem =>
    name?_component? (slash_not_mem_of_mem_pieces hmem)
  rw [← List.filterMap_eq_filter, ← List.filterMap_congr hpiece, ← List.filterMap_filterMap]
  obtain ⟨piece, more, hpieces⟩ := List.exists_cons_of_ne_nil (pieces_ne_nil p)
  rw [components, hpieces]
  simp only [List.filterMap_append]
  rcases leading_cases hpieces with hsame | ⟨hnone, hroot | hcurrent⟩
  · rw [hsame]
    cases hpiece : component? piece with
    | none =>
      rw [List.filterMap_cons_none hpiece]
      rfl
    | some c =>
      rw [List.filterMap_cons_some hpiece, List.filterMap_cons]
      cases hname : c.name? <;> simp [hname]
  · rw [hroot, List.filterMap_cons_none hnone]
    rfl
  · rw [hcurrent, List.filterMap_cons_none hnone]
    rfl

lemma way_down_sublist (p : Path) : p.way.down.Sublist (p.components.filterMap Component.name?) :=
  Way.down_foldl_push_sublist .start p.components

lemma way_down_sublist_pieces (p : Path) : p.way.down.Sublist p.pieces := by
  refine (way_down_sublist p).trans ?_
  rw [filterMap_name?_components]
  exact List.filter_sublist

lemma isName_of_mem_way_down {bytes : Name} (h : bytes ∈ p.way.down) : IsName bytes := by
  have hmem := (way_down_sublist p).subset h
  rw [filterMap_name?_components] at hmem
  simpa using (List.mem_filter.mp hmem).2

lemma name_mem_components {bytes : Name} (h : bytes ∈ p.way.down) : .name bytes ∈ p.components := by
  obtain ⟨c, hc, hname⟩ := List.mem_filterMap.mp ((way_down_sublist p).subset h)
  cases c with
  | root | current | parent => cases hname
  | name other =>
    obtain rfl := Option.some.inj hname
    exact hc

lemma bytes_ne_nil_of_way_down_ne_nil (hne : p.way.down ≠ []) : p.bytes ≠ [] := by
  intro hnil
  rw [way, components_of_bytes_eq_nil hnil] at hne
  exact hne rfl

/-! ### The normal form -/

/-- The components before the names in a normal form. -/
def base (p : Path) : List Component := if p.isAbsolute then [.root] else []

lemma foldl_pushComponent {base cs : List Component} (hbase : base = [] ∨ base = [.root])
    (hroot : .root ∉ cs) (way : Way) :
    cs.foldl pushComponent ((way.down.map .name).reverse ++ base) =
      ((cs.foldl Way.push way).down.map .name).reverse ++ base := by
  induction cs generalizing way with
  | nil => rfl
  | cons c cs ih =>
    rw [List.mem_cons, not_or] at hroot
    rw [List.foldl_cons, List.foldl_cons, ← ih hroot.2]
    congr 1
    cases c with
    | root => exact absurd rfl hroot.1
    | current => rfl
    | name bytes => simp [pushComponent, Way.push]
    | parent =>
      rw [Way.push]
      rcases List.eq_nil_or_concat way.down with hnil | ⟨names, last, hlast⟩
      · rcases hbase with rfl | rfl <;> simp [hnil, pushComponent]
      · simp [hlast, pushComponent]

lemma component?_ne_root (piece : List UInt8) : component? piece ≠ some .root := by
  rw [component?]
  split_ifs <;> simp

lemma root_not_mem_filterMap (pieces : List (List UInt8)) :
    .root ∉ pieces.filterMap component? := by
  intro h
  obtain ⟨piece, -, hpiece⟩ := List.mem_filterMap.mp h
  exact component?_ne_root piece hpiece

/-- Only at the start of an absolute path stands the root. -/
lemma exists_components_eq (p : Path) : ∃ cs, .root ∉ cs ∧ p.components = p.base ++ cs := by
  obtain ⟨piece, more, hpieces⟩ := List.exists_cons_of_ne_nil (pieces_ne_nil p)
  have hmore := root_not_mem_filterMap more
  simp only [components, hpieces, leading, base]
  split_ifs with habsolute hdot
  · exact ⟨_, hmore, rfl⟩
  · refine ⟨.current :: more.filterMap component?, ?_, rfl⟩
    rw [List.mem_cons, not_or]
    exact ⟨Component.noConfusion, hmore⟩
  · refine ⟨(component? piece).toList ++ more.filterMap component?, ?_, rfl⟩
    rw [List.mem_append, not_or, Option.mem_toList]
    exact ⟨component?_ne_root piece, hmore⟩

/-- The normal form goes down over the names on the way, without going up before. -/
lemma normalComponents_eq (p : Path) : p.normalComponents = p.base ++ p.way.down.map .name := by
  obtain ⟨cs, hroot, hcomponents⟩ := exists_components_eq p
  have hbase : p.base = [] ∨ p.base = [.root] := by
    rw [base]
    split
    · exact .inr rfl
    · exact .inl rfl
  have hfold := foldl_pushComponent hbase hroot .start
  have hstart : p.base.foldl pushComponent [] = p.base := by
    rcases hbase with h | h <;> simp [h, pushComponent]
  have hway : p.base.foldl Way.push .start = .start := by
    rcases hbase with h | h <;> simp [h, Way.push]
  rw [normalComponents, way, hcomponents, List.foldl_append, List.foldl_append, hstart, hway]
  simp only [Way.start, List.map_nil, List.reverse_nil, List.nil_append] at hfold
  rw [hfold]
  rcases hbase with h | h <;> simp [h, Way.start]

/-! ### The displayed form -/

/-- The names of the path are texts. -/
def HasTextNames (p : Path) : Prop :=
  ∀ bytes, .name bytes ∈ p.components → ∃ s, Text.bytes s = bytes

/-- The displayed form of a path, taken as a path. -/
def displayed (p : Path) : Path := ofString p.display

lemma bytes_displayed (h : p.HasTextNames) :
    p.displayed.bytes = [slash].intercalate (p.normalComponents.map Component.bytes) := by
  have htext : ∀ c ∈ p.normalComponents, Text.bytes c.text = c.bytes := by
    intro c hc
    rw [normalComponents_eq] at hc
    rcases List.mem_append.mp hc with hc | hc
    · rw [base] at hc
      split at hc
      · rw [List.mem_singleton.mp hc]
        decide
      · cases hc
    · obtain ⟨bytes, hbytes, rfl⟩ := List.mem_map.mp hc
      obtain ⟨s, hs⟩ := h bytes (name_mem_components hbytes)
      rw [Component.text, Component.bytes, ← hs, Text.lossy_bytes]
  show Text.bytes p.display = _
  rw [display, Text.bytes_intercalate_slash, List.map_map]
  exact congrArg [slash].intercalate (List.map_congr_left htext)

section Displayed

variable (h : p.HasTextNames) (hne : p.way.down ≠ [])

include h hne

lemma pieces_displayed (hrelative : p.isAbsolute = false) : p.displayed.pieces = p.way.down := by
  have hbytes : p.displayed.bytes = [slash].intercalate p.way.down := by
    rw [bytes_displayed h, normalComponents_eq, base, hrelative]
    simp [Component.bytes, Function.comp_def]
  have hpath : p.displayed = ⟨[slash].intercalate p.way.down⟩ := congrArg Path.mk hbytes
  rw [hpath]
  exact pieces_intercalate hne fun name hname => (isName_of_mem_way_down hname).slash_not_mem

/-- The displayed form of an absolute path starts with two slashes. -/
lemma pieces_displayed_absolute (habsolute : p.isAbsolute = true) :
    p.displayed.pieces = [] :: [] :: p.way.down := by
  have hbytes : p.displayed.bytes = slash :: slash :: [slash].intercalate p.way.down := by
    rw [bytes_displayed h, normalComponents_eq, base, habsolute, if_pos rfl, List.singleton_append,
      List.map_cons, List.intercalate_cons_of_ne_nil (by simpa using hne)]
    simp [Component.bytes, Function.comp_def]
  have hpath : p.displayed = ⟨[] ++ slash :: ([] ++ slash :: [slash].intercalate p.way.down)⟩ :=
    congrArg Path.mk hbytes
  have hnames := pieces_intercalate hne fun name hname =>
    (isName_of_mem_way_down hname).slash_not_mem
  rw [hpath, pieces_append_slash, pieces_append_slash, hnames]
  rfl

/-- The displayed form has no byte that the path does not have. -/
lemma mem_of_mem_displayed {b : UInt8} (hb : b ≠ slash) (hmem : b ∈ p.displayed.bytes) :
    b ∈ p.bytes := by
  rw [mem_bytes_iff hb] at hmem ⊢
  obtain ⟨piece, hpiece, hmem⟩ := hmem
  refine ⟨piece, (way_down_sublist_pieces p).subset ?_, hmem⟩
  cases habsolute : p.isAbsolute with
  | false => rwa [pieces_displayed h hne habsolute] at hpiece
  | true =>
    rw [pieces_displayed_absolute h hne habsolute] at hpiece
    have hnil : piece ≠ [] := List.ne_nil_of_mem hmem
    simpa [hnil] using hpiece

lemma displayed_bytes_ne_nil : p.displayed.bytes ≠ [] := by
  cases habsolute : p.isAbsolute with
  | false =>
    obtain ⟨name, more, hcons⟩ := List.exists_cons_of_ne_nil hne
    have hname : IsName name := isName_of_mem_way_down (hcons ▸ List.mem_cons_self)
    exact bytes_ne_nil_of_pieces_eq_cons ((pieces_displayed h hne habsolute).trans hcons)
      (.inl hname.ne_nil)
  | true =>
    exact bytes_ne_nil_of_pieces_eq_cons (pieces_displayed_absolute h hne habsolute)
      (.inr (List.cons_ne_nil _ _))

lemma isAbsolute_displayed : p.displayed.isAbsolute = p.isAbsolute := by
  have hbytes := displayed_bytes_ne_nil h hne
  cases habsolute : p.isAbsolute with
  | false =>
    obtain ⟨name, more, hcons⟩ := List.exists_cons_of_ne_nil hne
    have hname : IsName name := isName_of_mem_way_down (hcons ▸ List.mem_cons_self)
    rw [isAbsolute_of_pieces_eq_cons hbytes ((pieces_displayed h hne habsolute).trans hcons)]
    simpa using hname.ne_nil
  | true =>
    rw [isAbsolute_of_pieces_eq_cons hbytes (pieces_displayed_absolute h hne habsolute)]
    rfl

/-- A relative path is displayed in no more bytes than it has. -/
lemma length_displayed_le (hrelative : p.isAbsolute = false) :
    p.displayed.bytes.length ≤ p.bytes.length := by
  rw [← intercalate_pieces p.displayed, pieces_displayed h hne hrelative, ← intercalate_pieces p]
  exact length_intercalate_le (way_down_sublist_pieces p)

end Displayed

end Path

end OutlineLint

import Mathlib.Data.List.Chain
import Mathlib.Data.List.Nodup
import Mathlib.Tactic.Lemma
import OutlineLint.Comparison

/-!
# The order of required headings

Both comparisons look for a violation of the order only in a complete outline, one that has every
required heading. There the distinct required headings of the outline are those of the schema
(`requiredInOrder_perm`), sorted by their first positions (`pairwise_requiredInOrder`). So a
template and an artifact are in order in the same case, if the schema is sorted by these positions
as well (`templateOrder?_eq_none_iff`, `artifactOrder?_eq_none_iff`).
-/

namespace OutlineLint.Comparison

variable {schema : Schema} {outline : List String}

/-! ### First positions -/

/-- The first occurrence of `a` comes before that of `b`. -/
def Precedes (outline : List String) (a b : String) : Prop :=
  outline.idxOf a < outline.idxOf b

lemma Precedes.asymm {a b : String} (h : Precedes outline a b) : ¬ Precedes outline b a :=
  Nat.lt_asymm h

lemma Precedes.ne {a b : String} (h : Precedes outline a b) : a ≠ b := by
  rintro rfl
  exact Nat.lt_irrefl _ h

lemma firstPosition?_eq_none_iff {heading : String} :
    firstPosition? outline heading = none ↔ heading ∉ outline :=
  List.idxOf?_eq_none_iff

lemma firstPosition?_eq_some_of_mem {heading : String} (h : heading ∈ outline) :
    firstPosition? outline heading = some (outline.idxOf heading) := by
  induction outline with
  | nil => simp at h
  | cons first rest ih =>
    rw [firstPosition?, List.idxOf?_cons, List.idxOf_cons]
    by_cases hfirst : first = heading
    · simp [hfirst]
    · have hrest := ih ((List.mem_cons.mp h).resolve_left (Ne.symm hfirst))
      rw [firstPosition?] at hrest
      simp [beq_eq_false_iff_ne.mpr hfirst, hrest]

/-! ### Complete outlines -/

/-- Every required heading occurs. -/
def Complete (schema : Schema) (outline : List String) : Prop :=
  ∀ heading ∈ schema.required, heading ∈ outline

/-- The required headings occur for the first time in the order of the schema. -/
def InOrder (schema : Schema) (outline : List String) : Prop :=
  schema.required.Pairwise (Precedes outline)

lemma mem_missing_iff {heading : String} :
    heading ∈ missing schema outline ↔ heading ∈ schema.required ∧ heading ∉ outline := by
  simp [missing, firstPosition?_eq_none_iff]

lemma missing_eq_nil_iff : missing schema outline = [] ↔ Complete schema outline := by
  simp [List.eq_nil_iff_forall_not_mem, mem_missing_iff, Complete]

lemma isRequired_iff {heading : String} :
    schema.isRequired heading = true ↔ heading ∈ schema.required := by
  simp [Schema.isRequired]

/-! ### The required headings of an outline -/

lemma mem_requiredInOrder_iff {heading : String} :
    heading ∈ requiredInOrder schema outline ↔ heading ∈ outline ∧ heading ∈ schema.required := by
  rw [requiredInOrder, List.mem_eraseDups, List.mem_filter, isRequired_iff]

/-- Erasing later occurrences of the headings with a property sorts them by first positions. -/
lemma pairwise_eraseDups_filter (p : String → Bool) (outline : List String) :
    (outline.filter p).eraseDups.Pairwise (Precedes outline) := by
  induction outline generalizing p with
  | nil => exact .nil
  | cons first rest ih =>
    -- without `first`, positions in the rest are the same but for one
    have hshift (q : String → Bool) (hq : q first = false) :
        (rest.filter q).eraseDups.Pairwise (Precedes (first :: rest)) := by
      refine (ih q).imp_of_mem fun {a b} ha hb hab => ?_
      have hne {c : String} (hc : c ∈ (rest.filter q).eraseDups) : (first == c) = false := by
        rw [List.mem_eraseDups, List.mem_filter] at hc
        exact beq_eq_false_iff_ne.mpr fun heq => by simp [← heq, hq] at hc
      rw [Precedes] at hab ⊢
      simp [List.idxOf_cons, hne ha, hne hb, hab]
    by_cases hfirst : p first = true
    · rw [List.filter_cons_of_pos hfirst, List.eraseDups_cons, List.filter_filter]
      refine .cons (fun b hb => ?_) (hshift _ (by simp))
      have hne : (first == b) = false := by
        rw [List.mem_eraseDups, List.mem_filter] at hb
        refine beq_eq_false_iff_ne.mpr fun heq => ?_
        simp [heq] at hb
      rw [Precedes]
      simp [List.idxOf_cons, hne]
    · rw [List.filter_cons_of_neg hfirst]
      exact hshift p (by simpa using hfirst)

lemma pairwise_requiredInOrder : (requiredInOrder schema outline).Pairwise (Precedes outline) :=
  pairwise_eraseDups_filter _ _

/-- A complete outline has all required headings, in its own order. -/
lemma requiredInOrder_perm (hcomplete : Complete schema outline) :
    (requiredInOrder schema outline).Perm schema.required := by
  refine (List.perm_ext_iff_of_nodup (pairwise_requiredInOrder.imp Precedes.ne)
    schema.valid.required_nodup).mpr fun heading => ?_
  rw [mem_requiredInOrder_iff, and_iff_right_of_imp (hcomplete heading)]

/-- The required headings come in the order of the schema if and only if they are the schema's. -/
lemma requiredInOrder_eq_iff (hcomplete : Complete schema outline) :
    requiredInOrder schema outline = schema.required ↔ InOrder schema outline := by
  constructor
  · intro h
    rw [InOrder, ← h]
    exact pairwise_requiredInOrder
  · intro h
    exact (requiredInOrder_perm hcomplete).eq_of_pairwise
      (fun a b _ _ hab hba => absurd hba hab.asymm) pairwise_requiredInOrder h

/-! ### The first mismatch -/

/-- A mismatch is what follows the longest common start of two lists. -/
lemma exists_of_firstMismatch? {position : Nat} {es fs : List String} {d : Deviation}
    (h : firstMismatch? position es fs = some d) :
    ∃ common e f es' fs', es = common ++ e :: es' ∧ fs = common ++ f :: fs' ∧ e ≠ f ∧
      d = .outOfOrder e f (position + common.length) := by
  induction es generalizing fs position with
  | nil => simp [firstMismatch?] at h
  | cons e es ih =>
    cases fs with
    | nil => simp [firstMismatch?] at h
    | cons f fs =>
      rw [firstMismatch?] at h
      split at h
      · next heq =>
        obtain ⟨common, e', f', es', fs', rfl, rfl, hne, rfl⟩ := ih h
        exact ⟨e :: common, e', f', es', fs', rfl, heq ▸ rfl, hne,
          by rw [List.length_cons, Nat.add_right_comm, Nat.add_assoc]⟩
      · next hne => exact ⟨[], e, f, es, fs, rfl, rfl, hne, (Option.some.inj h).symm⟩

lemma firstMismatch?_eq_none_iff {position : Nat} {es fs : List String}
    (hlength : es.length = fs.length) : firstMismatch? position es fs = none ↔ es = fs := by
  induction es generalizing fs position with
  | nil => simp [firstMismatch?, List.length_eq_zero_iff.mp hlength.symm]
  | cons e es ih =>
    cases fs with
    | nil => simp at hlength
    | cons f fs =>
      rw [firstMismatch?]
      split
      · next heq => simp [heq, ih (Nat.succ.inj hlength)]
      · next hne => simp [hne]

/-- A complete template is in order if and only if no mismatch is found. -/
lemma templateOrder?_eq_none_iff (hcomplete : Complete schema outline) :
    templateOrder? schema outline = none ↔ InOrder schema outline := by
  rw [templateOrder?, firstMismatch?_eq_none_iff (requiredInOrder_perm hcomplete).length_eq.symm,
    eq_comm, requiredInOrder_eq_iff hcomplete]

/-! ### The first inversion -/

lemma presentRequired_eq_map (hcomplete : Complete schema outline) :
    presentRequired schema outline =
      schema.required.map fun heading => (heading, outline.idxOf heading) := by
  rw [presentRequired, ← List.filterMap_eq_map]
  refine List.filterMap_congr fun heading hheading => ?_
  simp [firstPosition?_eq_some_of_mem (hcomplete heading hheading)]

/-- An inversion is what follows the longest sorted start of a list. -/
lemma exists_of_firstInversion?_map {position : Nat} {hs : List String} {key : String → Nat}
    {d : Deviation} (h : firstInversion? position (hs.map fun h => (h, key h)) = some d) :
    ∃ sorted a b rest, hs = sorted ++ a :: b :: rest ∧
      (sorted ++ [a]).IsChain (key · ≤ key ·) ∧ key b < key a ∧
      d = .outOfOrder a b (position + sorted.length) := by
  induction hs generalizing position with
  | nil => simp [firstInversion?] at h
  | cons first hs ih =>
    cases hs with
    | nil => simp [firstInversion?] at h
    | cons second hs =>
      rw [List.map_cons, List.map_cons, firstInversion?] at h
      split at h
      · next hlt => exact ⟨[], first, second, hs, rfl, by simp, hlt, (Option.some.inj h).symm⟩
      · next hle =>
        obtain ⟨sorted, a, b, rest, hhs, hsorted, hba, rfl⟩ := ih h
        refine ⟨first :: sorted, a, b, rest, hhs ▸ rfl, ?_, hba,
          by rw [List.length_cons, Nat.add_right_comm, Nat.add_assoc]⟩
        cases sorted with
        | nil =>
          obtain ⟨rfl, -⟩ := List.cons.inj hhs
          simpa using hle
        | cons s sorted =>
          obtain ⟨rfl, -⟩ := List.cons.inj hhs
          exact List.isChain_cons_cons.mpr ⟨Nat.not_lt.mp hle, hsorted⟩

lemma firstInversion?_map_eq_none_iff {position : Nat} {hs : List String} {key : String → Nat} :
    firstInversion? position (hs.map fun h => (h, key h)) = none ↔
      hs.IsChain (key · ≤ key ·) := by
  induction hs generalizing position with
  | nil => simp [firstInversion?]
  | cons first hs ih =>
    cases hs with
    | nil => simp [firstInversion?]
    | cons second hs =>
      rw [List.map_cons, List.map_cons, firstInversion?, List.isChain_cons_cons]
      split
      · next hlt => simp [Nat.not_le.mpr hlt]
      · next hle =>
        rw [← List.map_cons (f := fun h => (h, key h)), ih]
        simp [Nat.not_lt.mp hle]

/-- Distinct headings of an outline of which each stands no later than the next are in order. -/
lemma pairwise_precedes_of_isChain {hs : List String} (hnodup : hs.Nodup)
    (hmem : ∀ heading ∈ hs, heading ∈ outline)
    (hchain : hs.IsChain (outline.idxOf · ≤ outline.idxOf ·)) :
    hs.Pairwise (Precedes outline) := by
  have htrans : IsTrans String (outline.idxOf · ≤ outline.idxOf ·) := ⟨fun _ _ _ => Nat.le_trans⟩
  refine (hchain.pairwise.and hnodup).imp_of_mem fun ha _ hab => ?_
  refine Nat.lt_of_le_of_ne hab.1 fun heq => hab.2 ?_
  exact (List.idxOf_inj (hmem _ ha)).mp heq

/-- A complete artifact is in order if and only if no inversion is found. -/
lemma artifactOrder?_eq_none_iff (hcomplete : Complete schema outline) :
    artifactOrder? schema outline = none ↔ InOrder schema outline := by
  rw [artifactOrder?, presentRequired_eq_map hcomplete, firstInversion?_map_eq_none_iff]
  constructor
  · intro h
    exact pairwise_precedes_of_isChain schema.valid.required_nodup hcomplete h
  · intro h
    exact (h.imp Nat.le_of_lt).isChain

end OutlineLint.Comparison

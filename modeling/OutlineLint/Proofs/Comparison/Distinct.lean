import OutlineLint.Proofs.Comparison.Extras

/-!
# Distinct headings

Both comparisons list distinct headings of a kind in the order in which an outline has them for the
first time: the required headings, and those that the schema does not name. There is just one such
list (`FirstOccurrences.unique`), so it may be taken from a shorter outline in which the same
headings come in the same order (`FirstOccurrences.trans`).
-/

namespace OutlineLint.Comparison

variable {schema : Schema} {outline : List String} {kind kind' : String → Prop}
  {hs hs' : List String}

/-- The headings of a kind that the outline has, each once, in the order of their first
occurrences. -/
structure FirstOccurrences (outline : List String) (kind : String → Prop) (hs : List String) :
    Prop where
  mem_iff : ∀ heading, heading ∈ hs ↔ heading ∈ outline ∧ kind heading
  increasing : hs.Pairwise (Precedes outline)

namespace FirstOccurrences

lemma nodup (h : FirstOccurrences outline kind hs) : hs.Nodup := h.increasing.imp Precedes.ne

/-- There is only one such list. -/
lemma unique (h : FirstOccurrences outline kind hs) (h' : FirstOccurrences outline kind hs') :
    hs = hs' := by
  have hperm : hs.Perm hs' := by
    refine (List.perm_ext_iff_of_nodup h.nodup h'.nodup).mpr fun heading => ?_
    rw [h.mem_iff, h'.mem_iff]
  exact hperm.eq_of_pairwise (fun a b _ _ hab hba => absurd hba hab.asymm) h.increasing
    h'.increasing

/-- The headings come in the same order as in the outline. -/
lemma precedes_iff (h : FirstOccurrences outline kind hs) {a b : String} (ha : a ∈ hs)
    (hb : b ∈ hs) : Precedes hs a b ↔ Precedes outline a b := by
  have hforward {a b : String} (ha : a ∈ hs) (hb : b ∈ hs) (hab : Precedes hs a b) :
      Precedes outline a b := by
    have hget := List.pairwise_iff_getElem.mp h.increasing (hs.idxOf a) (hs.idxOf b)
      (List.idxOf_lt_length_of_mem ha) (List.idxOf_lt_length_of_mem hb) hab
    rwa [List.getElem_idxOf, List.getElem_idxOf] at hget
  constructor
  · exact hforward ha hb
  · intro hab
    -- Otherwise `b` comes first in the list, and so in the outline, or both are at one position.
    by_contra hnot
    rcases Nat.lt_or_eq_of_le (Nat.not_lt.mp hnot) with hlt | heq
    · exact hab.asymm (hforward hb ha hlt)
    · exact hab.ne ((List.idxOf_inj hb).mp heq).symm

/-- First occurrences of a narrower kind can be looked for in the list instead of the outline. -/
lemma trans (h : FirstOccurrences outline kind hs) (h' : FirstOccurrences hs kind' hs')
    (hkind : ∀ heading, kind' heading → kind heading) : FirstOccurrences outline kind' hs' where
  mem_iff heading := by
    rw [h'.mem_iff, h.mem_iff, and_assoc, and_congr_right_iff]
    exact fun _ => and_iff_right_of_imp (hkind heading)
  increasing := by
    refine h'.increasing.imp_of_mem fun ha hb hab => ?_
    exact (h.precedes_iff ((h'.mem_iff _).mp ha).1 ((h'.mem_iff _).mp hb).1).mp hab

end FirstOccurrences

/-! ### Lists of first occurrences -/

lemma firstOccurrences_eraseDups_filter (outline : List String) (p : String → Bool) :
    FirstOccurrences outline (p · = true) (outline.filter p).eraseDups where
  mem_iff heading := by rw [List.mem_eraseDups, List.mem_filter]
  increasing := pairwise_eraseDups_filter p outline

lemma firstOccurrences_eraseDups (outline : List String) :
    FirstOccurrences outline (fun _ => True) outline.eraseDups where
  mem_iff heading := by rw [List.mem_eraseDups, and_true]
  increasing := by
    simpa using pairwise_eraseDups_filter (fun _ => true) outline

lemma firstOccurrences_requiredInOrder (schema : Schema) (outline : List String) :
    FirstOccurrences outline (· ∈ schema.required) (requiredInOrder schema outline) where
  mem_iff _ := mem_requiredInOrder_iff
  increasing := pairwise_requiredInOrder

lemma firstOccurrences_extra (schema : Schema) (outline : List String) :
    FirstOccurrences outline (fun heading => heading ∉ schema.required ∧ heading ∉ schema.optional)
      (extra schema outline) where
  mem_iff _ := by rw [mem_extra_iff, isRecognized_eq_false_iff]
  increasing := pairwise_eraseDups_filter _ outline

/-- An outline has the schema's headings in order if these are its distinct required headings. -/
lemma firstOccurrences_required_iff :
    FirstOccurrences outline (· ∈ schema.required) schema.required ↔
      Complete schema outline ∧ InOrder schema outline := by
  constructor
  · intro h
    exact ⟨fun heading hheading => ((h.mem_iff heading).mp hheading).1, h.increasing⟩
  · rintro ⟨hcomplete, horder⟩
    exact ⟨fun heading => (and_iff_right_of_imp (hcomplete heading)).symm, horder⟩

end OutlineLint.Comparison

import OutlineLint.Proofs.Comparison.Distinct

/-!
# The deviations of an artifact

A comparison with an artifact gives the missing headings or at most one violation of the order, then
the optional headings that stand before the anchor, and of a complete outline the extra headings
(`Consists`). No heading is listed twice, and there is no deviation if and only if the distinct
required headings of the outline are the schema's, it names all headings, and no optional heading
stands before the anchor (`artifact_consists`).
-/

namespace OutlineLint.Comparison

variable {schema : Schema} {outline : List String}

/-! ### Optional headings before the anchor -/

instance (outline : List String) (a b : String) : Decidable (Precedes outline a b) :=
  inferInstanceAs (Decidable (_ < _))

/-- The heading occurs for the first time before the anchor does. -/
def Early (schema : Schema) (outline : List String) (heading : String) : Prop :=
  heading ∈ outline ∧ schema.anchor ∈ outline ∧ Precedes outline heading schema.anchor

instance (schema : Schema) (outline : List String) (heading : String) :
    Decidable (Early schema outline heading) :=
  inferInstanceAs (Decidable (_ ∧ _))

/-- The optional headings that stand before the anchor, in the order of the schema. -/
def early (schema : Schema) (outline : List String) : List String :=
  schema.optional.filter (Early schema outline ·)

/-- A deviation for each optional heading before the anchor. -/
def placement (schema : Schema) (outline : List String) : List Deviation :=
  (early schema outline).map (.optionalMisplaced · schema.anchor)

lemma mem_early_iff {heading : String} :
    heading ∈ early schema outline ↔ heading ∈ schema.optional ∧ Early schema outline heading := by
  rw [early, List.mem_filter, decide_eq_true_iff]

lemma occursBefore_iff {position : Nat} {heading : String} :
    occursBefore outline position heading = true ↔
      heading ∈ outline ∧ outline.idxOf heading < position := by
  rw [occursBefore]
  by_cases hheading : heading ∈ outline
  · simp [firstPosition?_eq_some_of_mem hheading, hheading]
  · simp [firstPosition?_eq_none_iff.mpr hheading, hheading]

lemma misplaced_eq_placement : misplaced schema outline = placement schema outline := by
  rw [misplaced, placement, early]
  by_cases hanchor : schema.anchor ∈ outline
  · rw [firstPosition?_eq_some_of_mem hanchor]
    refine congrArg _ (List.filter_congr fun heading _ => ?_)
    rw [Bool.eq_iff_iff, occursBefore_iff, decide_eq_true_iff, Early, and_iff_right hanchor,
      Precedes]
  · rw [firstPosition?_eq_none_iff.mpr hanchor]
    simp [Early, hanchor]

/-! ### What an artifact's deviations consist of -/

/-- The deviation of having extra headings, if there are any. -/
def ofExtra : List String → List Deviation
  | [] => []
  | headings => [.extra headings]

lemma toList_extraDeviation? :
    (extraDeviation? schema outline).toList = ofExtra (extra schema outline) := by
  rw [extraDeviation?]
  cases extra schema outline <;> rfl

/-- The deviations of an artifact, part by part. -/
inductive Consists (schema : Schema) (outline : List String) : List Deviation → Prop
  | incomplete (hincomplete : ¬ Complete schema outline) :
      Consists schema outline
        (.missing (schema.required.filter (· ∉ outline)) :: placement schema outline)
  | complete {order : List Deviation} {unnamed : List String} (hcomplete : Complete schema outline)
      (horder : order = [] ∨
        ∃ before after position, order = [.outOfOrder before after position])
      (hunnamed : FirstOccurrences outline
        (fun heading => heading ∉ schema.required ∧ heading ∉ schema.optional) unnamed) :
      Consists schema outline (order ++ placement schema outline ++ ofExtra unnamed)

lemma missing_eq_filter :
    missing schema outline = schema.required.filter (· ∉ outline) := by
  refine List.filter_congr fun heading _ => ?_
  rw [Bool.eq_iff_iff, Option.isNone_iff_eq_none, firstPosition?_eq_none_iff, decide_eq_true_iff]

lemma Consists.of_artifact (schema : Schema) (outline : List String) :
    Consists schema outline (artifact schema outline) := by
  rw [artifact, misplaced_eq_placement, toList_extraDeviation?]
  cases hmissing : missing schema outline with
  | nil =>
    have hcomplete := missing_eq_nil_iff.mp hmissing
    refine .complete hcomplete ?_ (firstOccurrences_extra schema outline)
    cases horder : artifactOrder? schema outline with
    | none => exact .inl rfl
    | some d =>
      obtain ⟨sorted, a, b, rest, -, -, -, rfl⟩ := exists_of_artifactOrder? hcomplete horder
      exact .inr ⟨a, b, _, rfl⟩
  | cons heading rest =>
    have hincomplete : ¬ Complete schema outline := by
      rw [← missing_eq_nil_iff, hmissing]
      exact List.cons_ne_nil heading rest
    show Consists schema outline (.missing (heading :: rest) :: placement schema outline)
    rw [← hmissing, missing_eq_filter]
    exact .incomplete hincomplete

end Comparison

/-! ### Headings in deviations -/

/-- The headings that a deviation gives as missing, misplaced or extra. -/
def Deviation.listed : Deviation → List String
  | .missing headings => headings
  | .outOfOrder .. => []
  | .extra headings => headings
  | .optionalMisplaced heading _ => [heading]

namespace Comparison

lemma flatMap_listed_placement :
    (placement schema outline).flatMap Deviation.listed = early schema outline := by
  rw [placement, List.flatMap_map]
  exact List.flatMap_singleton' _

lemma flatMap_listed_ofExtra (headings : List String) :
    (ofExtra headings).flatMap Deviation.listed = headings := by
  cases headings with
  | nil => rfl
  | cons heading rest => exact List.append_nil _

lemma nodup_early : (early schema outline).Nodup := schema.valid.optional_nodup.filter _

/-- No heading is listed twice. -/
lemma Consists.nodup_listed {deviations : List Deviation} (h : Consists schema outline deviations) :
    (deviations.flatMap Deviation.listed).Nodup := by
  cases h with
  | incomplete hincomplete =>
    rw [List.flatMap_cons, flatMap_listed_placement]
    refine List.nodup_append.mpr ⟨schema.valid.required_nodup.filter _, nodup_early, ?_⟩
    rintro a ha b hb rfl
    exact schema.valid.disjoint a (mem_early_iff.mp hb).1 (List.mem_of_mem_filter ha)
  | @complete order unnamed hcomplete horder hunnamed =>
    have hlisted : order.flatMap Deviation.listed = [] := by
      rcases horder with rfl | ⟨before, after, position, rfl⟩ <;> rfl
    rw [List.flatMap_append, List.flatMap_append, hlisted, flatMap_listed_placement,
      flatMap_listed_ofExtra, List.nil_append]
    refine List.nodup_append.mpr ⟨nodup_early, hunnamed.nodup, ?_⟩
    rintro a ha b hb rfl
    exact ((hunnamed.mem_iff a).mp hb).2.2 (mem_early_iff.mp ha).1

/-! ### Artifacts without a deviation -/

lemma named_iff :
    Named schema outline ↔
      ∀ heading ∈ outline, heading ∈ schema.required ∨ heading ∈ schema.optional := by
  simp only [Named, isRecognized_iff]

lemma placement_eq_nil_iff :
    placement schema outline = [] ↔
      ∀ heading ∈ schema.optional, ¬ Early schema outline heading := by
  simp [placement, early]

lemma artifact_eq_nil_iff :
    artifact schema outline = [] ↔
      (Complete schema outline ∧ InOrder schema outline) ∧ placement schema outline = [] ∧
        Named schema outline := by
  by_cases hcomplete : Complete schema outline
  · rw [artifact, missing_eq_nil_iff.mpr hcomplete, misplaced_eq_placement]
    simp [hcomplete, artifactOrder?_eq_none_iff hcomplete, extraDeviation?_eq_none_iff]
  · have hmissing := missing_mem_artifact_iff.mpr ⟨hcomplete, rfl⟩
    simp [hcomplete, List.ne_nil_of_mem hmissing]

/-- The deviations of an artifact are the required headings that it lacks, or at most one violation
of the order, then the optional headings before the anchor, which is the last required heading, then,
of a complete outline, the headings that the schema does not name. No heading is listed twice. There
is no deviation exactly if the distinct required headings of the outline are the schema's, the schema
names all its headings and no optional one stands before the anchor. -/
theorem artifact_consists (schema : Schema) (outline : List String) :
    schema.required.getLast? = some schema.anchor ∧
    Consists schema outline (artifact schema outline) ∧
    ((artifact schema outline).flatMap Deviation.listed).Nodup ∧
    (artifact schema outline = [] ↔
      FirstOccurrences outline (· ∈ schema.required) schema.required ∧
      (∀ heading ∈ outline, heading ∈ schema.required ∨ heading ∈ schema.optional) ∧
      ∀ heading ∈ schema.optional, ¬ Early schema outline heading) := by
  have hconsists := Consists.of_artifact schema outline
  refine ⟨List.getLast?_eq_some_getLast schema.valid.required_ne_nil, hconsists,
    hconsists.nodup_listed, ?_⟩
  rw [artifact_eq_nil_iff, firstOccurrences_required_iff, named_iff, placement_eq_nil_iff,
    and_comm (a := ∀ heading ∈ schema.optional, _)]

/-- Required headings in the wrong order, an optional one before the anchor and an unknown one. -/
example :
    artifact ⟨["## A", "## B"], ["## N"], by constructor <;> decide⟩
        ["## N", "## B", "## X", "## A", "## X"] =
      [.outOfOrder "## A" "## B" 1, .optionalMisplaced "## N" "## B", .extra ["## X"]] := by
  decide

end OutlineLint.Comparison

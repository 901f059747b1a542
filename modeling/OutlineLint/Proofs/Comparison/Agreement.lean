import OutlineLint.Proofs.Comparison.Order

/-!
# The two comparisons agree

A template and an artifact with the same outline are found to lack the same headings, to be out of
order in the same cases and to have the same extra headings (`template_artifact_agree`). Only the
place at which a violation of the order is noticed differs: where the distinct required headings
stop to be the schema's, or at a later place, where a heading stands after its successor.
-/

namespace OutlineLint.Comparison

variable {schema : Schema} {outline : List String}

/-! ### The deviations of an outline -/

lemma mem_template_iff {d : Deviation} :
    d ∈ template schema outline ↔
      (¬ Complete schema outline ∧ d = .missing (missing schema outline)) ∨
      (Complete schema outline ∧
        (templateOrder? schema outline = some d ∨ extraDeviation? schema outline = some d)) := by
  rw [template, ← missing_eq_nil_iff]
  split
  · next h => simp [h]
  · next h =>
    have hne : missing schema outline ≠ [] := h
    simp [hne]

lemma mem_artifact_iff {d : Deviation} :
    d ∈ artifact schema outline ↔
      (¬ Complete schema outline ∧ d = .missing (missing schema outline)) ∨
      (Complete schema outline ∧
        (artifactOrder? schema outline = some d ∨ extraDeviation? schema outline = some d)) ∨
      d ∈ misplaced schema outline := by
  rw [artifact, ← missing_eq_nil_iff]
  split
  · next h => simp [h, or_assoc, or_comm (a := d ∈ misplaced schema outline)]
  · next h =>
    have hne : missing schema outline ≠ [] := h
    simp [hne]

/-- A violation of the order of a template is where the distinct required headings of the outline
stop to be those of the schema. -/
lemma exists_of_templateOrder? {d : Deviation} (h : templateOrder? schema outline = some d) :
    ∃ common e f es fs, schema.required = common ++ e :: es ∧
      requiredInOrder schema outline = common ++ f :: fs ∧ e ≠ f ∧
      d = .outOfOrder e f (common.length + 1) := by
  obtain ⟨common, e, f, es, fs, hrequired, hfound, hne, rfl⟩ := exists_of_firstMismatch? h
  exact ⟨common, e, f, es, fs, hrequired, hfound, hne, by rw [Nat.add_comm]⟩

/-- A violation of the order of an artifact is where the schema stops to be sorted. -/
lemma exists_of_artifactOrder? {d : Deviation} (hcomplete : Complete schema outline)
    (h : artifactOrder? schema outline = some d) :
    ∃ sorted a b rest, schema.required = sorted ++ a :: b :: rest ∧
      (sorted ++ [a]).IsChain (outline.idxOf · ≤ outline.idxOf ·) ∧ Precedes outline b a ∧
      d = .outOfOrder a b (sorted.length + 1) := by
  rw [artifactOrder?, presentRequired_eq_map hcomplete] at h
  obtain ⟨sorted, a, b, rest, hrequired, hsorted, hba, rfl⟩ := exists_of_firstInversion?_map h
  exact ⟨sorted, a, b, rest, hrequired, hsorted, hba, by rw [Nat.add_comm]⟩

/-! The code of a deviation tells which part of a comparison it comes from. -/

lemma code_of_templateOrder? {d : Deviation} (h : templateOrder? schema outline = some d) :
    d.code = .structuralOrder := by
  obtain ⟨common, e, f, es, fs, -, -, -, rfl⟩ := exists_of_templateOrder? h
  rfl

lemma code_of_artifactOrder? {d : Deviation} (hcomplete : Complete schema outline)
    (h : artifactOrder? schema outline = some d) : d.code = .structuralOrder := by
  obtain ⟨sorted, a, b, rest, -, -, -, rfl⟩ := exists_of_artifactOrder? hcomplete h
  rfl

lemma code_of_extraDeviation? {d : Deviation} (h : extraDeviation? schema outline = some d) :
    d.code = .structuralExtra := by
  rw [extraDeviation?] at h
  split at h
  · contradiction
  · exact Option.some.inj h ▸ rfl

lemma code_of_mem_misplaced {d : Deviation} (h : d ∈ misplaced schema outline) :
    d.code = .structuralMisplacedOptional := by
  rw [misplaced] at h
  split at h
  · contradiction
  · obtain ⟨heading, -, rfl⟩ := List.mem_map.mp h
    rfl

/-! ### Each kind of deviation -/

lemma missing_mem_template_iff {headings : List String} :
    .missing headings ∈ template schema outline ↔
      ¬ Complete schema outline ∧ headings = missing schema outline := by
  rw [mem_template_iff]
  constructor
  · rintro (⟨hcomplete, heq⟩ | ⟨-, h | h⟩)
    · exact ⟨hcomplete, Deviation.missing.inj heq⟩
    · cases code_of_templateOrder? h
    · cases code_of_extraDeviation? h
  · rintro ⟨hcomplete, rfl⟩
    exact .inl ⟨hcomplete, rfl⟩

lemma missing_mem_artifact_iff {headings : List String} :
    .missing headings ∈ artifact schema outline ↔
      ¬ Complete schema outline ∧ headings = missing schema outline := by
  rw [mem_artifact_iff]
  constructor
  · rintro (⟨hcomplete, heq⟩ | ⟨hcomplete, h | h⟩ | h)
    · exact ⟨hcomplete, Deviation.missing.inj heq⟩
    · cases code_of_artifactOrder? hcomplete h
    · cases code_of_extraDeviation? h
    · cases code_of_mem_misplaced h
  · rintro ⟨hcomplete, rfl⟩
    exact .inl ⟨hcomplete, rfl⟩

lemma outOfOrder_mem_template_iff {before after : String} {position : Nat} :
    .outOfOrder before after position ∈ template schema outline ↔
      Complete schema outline ∧
        templateOrder? schema outline = some (.outOfOrder before after position) := by
  rw [mem_template_iff]
  constructor
  · rintro (⟨-, heq⟩ | ⟨hcomplete, h | h⟩)
    · cases heq
    · exact ⟨hcomplete, h⟩
    · cases code_of_extraDeviation? h
  · rintro ⟨hcomplete, h⟩
    exact .inr ⟨hcomplete, .inl h⟩

lemma outOfOrder_mem_artifact_iff {before after : String} {position : Nat} :
    .outOfOrder before after position ∈ artifact schema outline ↔
      Complete schema outline ∧
        artifactOrder? schema outline = some (.outOfOrder before after position) := by
  rw [mem_artifact_iff]
  constructor
  · rintro (⟨-, heq⟩ | ⟨hcomplete, h | h⟩ | h)
    · cases heq
    · exact ⟨hcomplete, h⟩
    · cases code_of_extraDeviation? h
    · cases code_of_mem_misplaced h
  · rintro ⟨hcomplete, h⟩
    exact .inr (.inl ⟨hcomplete, .inl h⟩)

lemma extra_mem_template_iff {headings : List String} :
    .extra headings ∈ template schema outline ↔
      Complete schema outline ∧ extraDeviation? schema outline = some (.extra headings) := by
  rw [mem_template_iff]
  constructor
  · rintro (⟨-, heq⟩ | ⟨hcomplete, h | h⟩)
    · cases heq
    · cases code_of_templateOrder? h
    · exact ⟨hcomplete, h⟩
  · rintro ⟨hcomplete, h⟩
    exact .inr ⟨hcomplete, .inr h⟩

lemma extra_mem_artifact_iff {headings : List String} :
    .extra headings ∈ artifact schema outline ↔
      Complete schema outline ∧ extraDeviation? schema outline = some (.extra headings) := by
  rw [mem_artifact_iff]
  constructor
  · rintro (⟨-, heq⟩ | ⟨hcomplete, h | h⟩ | h)
    · cases heq
    · cases code_of_artifactOrder? hcomplete h
    · exact ⟨hcomplete, h⟩
    · cases code_of_mem_misplaced h
  · rintro ⟨hcomplete, h⟩
    exact .inr (.inl ⟨hcomplete, .inr h⟩)

lemma optionalMisplaced_not_mem_template {heading anchor : String} :
    .optionalMisplaced heading anchor ∉ template schema outline := by
  rw [mem_template_iff]
  rintro (⟨-, heq⟩ | ⟨-, h | h⟩)
  · cases heq
  · cases code_of_templateOrder? h
  · cases code_of_extraDeviation? h

/-- A template is out of order if it is complete and its headings are not sorted as the schema's. -/
lemma exists_outOfOrder_mem_template_iff :
    (∃ before after position, .outOfOrder before after position ∈ template schema outline) ↔
      Complete schema outline ∧ ¬ InOrder schema outline := by
  simp only [outOfOrder_mem_template_iff]
  constructor
  · rintro ⟨before, after, position, hcomplete, h⟩
    refine ⟨hcomplete, fun horder => ?_⟩
    rw [(templateOrder?_eq_none_iff hcomplete).mpr horder] at h
    contradiction
  · rintro ⟨hcomplete, horder⟩
    rw [← templateOrder?_eq_none_iff hcomplete] at horder
    obtain ⟨d, hd⟩ := Option.ne_none_iff_exists'.mp horder
    obtain ⟨common, e, f, es, fs, -, -, -, rfl⟩ := exists_of_templateOrder? hd
    exact ⟨e, f, _, hcomplete, hd⟩

/-- An artifact is out of order in the same case. -/
lemma exists_outOfOrder_mem_artifact_iff :
    (∃ before after position, .outOfOrder before after position ∈ artifact schema outline) ↔
      Complete schema outline ∧ ¬ InOrder schema outline := by
  simp only [outOfOrder_mem_artifact_iff]
  constructor
  · rintro ⟨before, after, position, hcomplete, h⟩
    refine ⟨hcomplete, fun horder => ?_⟩
    rw [(artifactOrder?_eq_none_iff hcomplete).mpr horder] at h
    contradiction
  · rintro ⟨hcomplete, horder⟩
    rw [← artifactOrder?_eq_none_iff hcomplete] at horder
    obtain ⟨d, hd⟩ := Option.ne_none_iff_exists'.mp horder
    obtain ⟨sorted, a, b, rest, -, -, -, rfl⟩ := exists_of_artifactOrder? hcomplete hd
    exact ⟨a, b, _, hcomplete, hd⟩

/-- What an outline has in common with the schema is sorted, and no longer than what is sorted. -/
lemma length_common_le_length_sorted {common sorted es fs rest : List String} {e f a b : String}
    (hcomplete : Complete schema outline) (hcommon : schema.required = common ++ e :: es)
    (hfound : requiredInOrder schema outline = common ++ f :: fs)
    (hsorted : schema.required = sorted ++ a :: b :: rest) (hba : Precedes outline b a) :
    common.length ≤ sorted.length := by
  -- otherwise `a` is among the common headings, and the outline has `b` after all of these
  by_contra hlt
  have hsortedPrefix : sorted ++ [a] <+: schema.required := ⟨b :: rest, by simp [hsorted]⟩
  have hcommonPrefix : common <+: schema.required := ⟨e :: es, hcommon.symm⟩
  have hlength : (sorted ++ [a]).length ≤ common.length := by
    rw [List.length_append]
    exact Nat.lt_of_not_le hlt
  obtain ⟨tail, rfl⟩ := List.prefix_of_prefix_length_le hsortedPrefix hcommonPrefix hlength
  rw [List.append_assoc (sorted ++ [a])] at hfound
  have hb : b ∈ tail ++ f :: fs := by
    have hmem : b ∈ requiredInOrder schema outline :=
      (requiredInOrder_perm hcomplete).mem_iff.mpr (by simp [hsorted])
    rw [hfound] at hmem
    refine (List.mem_append.mp hmem).resolve_left fun hleft => ?_
    have hnodup := schema.valid.required_nodup
    rw [hsorted, ← List.singleton_append, ← List.append_assoc] at hnodup
    exact List.disjoint_of_nodup_append hnodup hleft List.mem_cons_self
  have hpairwise : (requiredInOrder schema outline).Pairwise (Precedes outline) :=
    pairwise_requiredInOrder
  rw [hfound] at hpairwise
  exact hba.asymm ((List.pairwise_append.mp hpairwise).2.2 a (by simp) b hb)

/-! ### Agreement -/

/-- Both comparisons find the same headings missing, a violation of the order in the same outlines,
and the same extra headings; a template has no misplaced optional headings. A violation of the order
is found in a template no later than in an artifact. -/
theorem template_artifact_agree (schema : Schema) (outline : List String) :
    (∀ headings, .missing headings ∈ template schema outline ↔
      .missing headings ∈ artifact schema outline) ∧
    ((∃ before after position, .outOfOrder before after position ∈ template schema outline) ↔
      ∃ before after position, .outOfOrder before after position ∈ artifact schema outline) ∧
    (∀ headings, .extra headings ∈ template schema outline ↔
      .extra headings ∈ artifact schema outline) ∧
    (∀ heading anchor, .optionalMisplaced heading anchor ∉ template schema outline) ∧
    ∀ before after position before' after' position',
      .outOfOrder before after position ∈ template schema outline →
      .outOfOrder before' after' position' ∈ artifact schema outline → position ≤ position' := by
  refine ⟨fun headings => ?_, ?_, fun headings => ?_,
    fun heading anchor => optionalMisplaced_not_mem_template, ?_⟩
  · rw [missing_mem_template_iff, missing_mem_artifact_iff]
  · rw [exists_outOfOrder_mem_template_iff, exists_outOfOrder_mem_artifact_iff]
  · rw [extra_mem_template_iff, extra_mem_artifact_iff]
  · intro before after position before' after' position' htemplate hartifact
    obtain ⟨hcomplete, htemplate⟩ := outOfOrder_mem_template_iff.mp htemplate
    obtain ⟨-, hartifact⟩ := outOfOrder_mem_artifact_iff.mp hartifact
    obtain ⟨common, e, f, es, fs, hcommon, hfound, -, hd⟩ := exists_of_templateOrder? htemplate
    obtain ⟨sorted, a, b, rest, hsorted, -, hba, hd'⟩ :=
      exists_of_artifactOrder? hcomplete hartifact
    have hle := length_common_le_length_sorted hcomplete hcommon hfound hsorted hba
    cases hd
    cases hd'
    exact Nat.succ_le_succ hle

end OutlineLint.Comparison

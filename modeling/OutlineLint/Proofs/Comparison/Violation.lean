import OutlineLint.Proofs.Comparison.Distinct

/-!
# What a violation of the order says

A violation of the order names two required headings that the outline has in the wrong order, and
the position of the first in the schema. In a template it is where the distinct required headings of
the outline stop to be the schema's, in an artifact where the schema's headings stop to be in the
order of the outline. It is reported if and only if the outline is complete and its order is not the
schema's (`outOfOrder_names_swapped`).
-/

namespace OutlineLint.Comparison

variable {schema : Schema} {outline : List String} {before after : String} {position : Nat}

/-- Two required headings are in the wrong order: the schema has `before` at the position, counted
from 1, and `after` later, and the outline has both the other way round. -/
structure Swapped (schema : Schema) (outline : List String) (before after : String)
    (position : Nat) : Prop where
  position_pos : 0 < position
  before_at : schema.required[position - 1]? = some before
  after_later : after ∈ schema.required.drop position
  before_mem : before ∈ outline
  after_mem : after ∈ outline
  precedes : Precedes outline after before

/-- The distinct required headings of the outline are the schema's before the position, and there
the outline has `after`. -/
structure SwappedInTemplate (schema : Schema) (outline : List String) (before after : String)
    (position : Nat) : Prop extends Swapped schema outline before after position where
  agree_before : ∃ found, FirstOccurrences outline (· ∈ schema.required) found ∧
    found.take (position - 1) = schema.required.take (position - 1) ∧
    found[position - 1]? = some after

/-- The schema's headings are in order up to the position, and `after` is the next one. -/
structure SwappedInArtifact (schema : Schema) (outline : List String) (before after : String)
    (position : Nat) : Prop extends Swapped schema outline before after position where
  after_next : schema.required[position]? = some after
  sorted_until : (schema.required.take position).Pairwise (Precedes outline)

/-! ### Templates -/

/-- Where two lists of the same headings differ for the first time, each has the other's heading
further on. -/
lemma mem_of_perm_of_ne {common es fs : List String} {e f : String}
    (hperm : (common ++ e :: es).Perm (common ++ f :: fs)) (hne : e ≠ f) : f ∈ es ∧ e ∈ fs := by
  have hrest : (e :: es).Perm (f :: fs) := (List.perm_append_left_iff common).mp hperm
  constructor
  · exact (List.mem_cons.mp (hrest.mem_iff.mpr List.mem_cons_self)).resolve_left hne.symm
  · exact (List.mem_cons.mp (hrest.mem_iff.mp List.mem_cons_self)).resolve_left hne

lemma swapped_of_outOfOrder_mem_template
    (h : .outOfOrder before after position ∈ template schema outline) :
    SwappedInTemplate schema outline before after position := by
  obtain ⟨hcomplete, horder⟩ := outOfOrder_mem_template_iff.mp h
  obtain ⟨common, e, f, es, fs, hcommon, hfound, hne, hd⟩ := exists_of_templateOrder? horder
  obtain ⟨rfl, rfl, rfl⟩ := Deviation.outOfOrder.inj hd
  -- The schema and the outline have the same required headings in two orders, so each of the two
  -- that differ stands further on in the other list.
  have hperm : (common ++ before :: es).Perm (common ++ after :: fs) := by
    rw [← hcommon, ← hfound]
    exact (requiredInOrder_perm hcomplete).symm
  obtain ⟨hlater, hbefore⟩ := mem_of_perm_of_ne hperm hne
  have hincreasing : (common ++ after :: fs).Pairwise (Precedes outline) := by
    rw [← hfound]
    exact pairwise_requiredInOrder
  refine ⟨⟨Nat.succ_pos _, ?_, ?_, ?_, ?_, ?_⟩, ?_⟩
  · simp [hcommon]
  · simpa [hcommon] using hlater
  · exact hcomplete before (by simp [hcommon])
  · exact hcomplete after (by simp [hcommon, hlater])
  · exact (List.pairwise_cons.mp (List.pairwise_append.mp hincreasing).2.1).1 before hbefore
  · refine ⟨_, firstOccurrences_requiredInOrder schema outline, ?_, ?_⟩
    · simp [hcommon, hfound]
    · simp [hfound]

/-! ### Artifacts -/

lemma swapped_of_outOfOrder_mem_artifact
    (h : .outOfOrder before after position ∈ artifact schema outline) :
    SwappedInArtifact schema outline before after position := by
  obtain ⟨hcomplete, horder⟩ := outOfOrder_mem_artifact_iff.mp h
  obtain ⟨sorted, a, b, rest, hsplit, hchain, hba, hd⟩ := exists_of_artifactOrder? hcomplete horder
  obtain ⟨rfl, rfl, rfl⟩ := Deviation.outOfOrder.inj hd
  -- The search compares neighbours only; what it has passed is a chain, which is sorted as a whole.
  have htake : schema.required.take (sorted.length + 1) = sorted ++ [before] := by
    rw [hsplit, List.append_cons]
    exact List.take_left' List.length_append
  have hsublist : (sorted ++ [before]).Sublist schema.required := htake ▸ List.take_sublist ..
  refine ⟨⟨Nat.succ_pos _, ?_, ?_, ?_, ?_, hba⟩, ?_, ?_⟩
  · simp [hsplit]
  · simp [hsplit]
  · exact hcomplete before (by simp [hsplit])
  · exact hcomplete after (by simp [hsplit])
  · simp [hsplit]
  · rw [htake]
    exact pairwise_precedes_of_isChain (schema.valid.required_nodup.sublist hsublist)
      (fun heading hheading => hcomplete heading (hsublist.mem hheading)) hchain

/-! ### Both -/

/-- No violation of the order is reported of an outline that lacks a required heading. Of a complete
one both comparisons report a violation if and only if the first occurrences of the required
headings are not in the order of the schema, and the headings and the position that they name are
true. -/
theorem outOfOrder_names_swapped (schema : Schema) (outline : List String) :
    (¬ Complete schema outline → ∀ before after position,
      .outOfOrder before after position ∉ template schema outline ∧
      .outOfOrder before after position ∉ artifact schema outline) ∧
    (Complete schema outline →
      ((∃ before after position, .outOfOrder before after position ∈ template schema outline) ↔
        ¬ InOrder schema outline) ∧
      ((∃ before after position, .outOfOrder before after position ∈ artifact schema outline) ↔
        ¬ InOrder schema outline)) ∧
    ∀ before after position,
      (.outOfOrder before after position ∈ template schema outline →
        SwappedInTemplate schema outline before after position) ∧
      (.outOfOrder before after position ∈ artifact schema outline →
        SwappedInArtifact schema outline before after position) := by
  refine ⟨fun hincomplete before after position => ⟨?_, ?_⟩, fun hcomplete => ⟨?_, ?_⟩,
    fun before after position => ⟨?_, ?_⟩⟩
  · exact fun h => hincomplete (outOfOrder_mem_template_iff.mp h).1
  · exact fun h => hincomplete (outOfOrder_mem_artifact_iff.mp h).1
  · rw [exists_outOfOrder_mem_template_iff, and_iff_right hcomplete]
  · rw [exists_outOfOrder_mem_artifact_iff, and_iff_right hcomplete]
  · exact swapped_of_outOfOrder_mem_template
  · exact swapped_of_outOfOrder_mem_artifact

/-- The last of three required headings comes first, another one is repeated, and one is not the
schema's. The template names the first and the last, the artifact the second and the last. -/
theorem outOfOrder_names_swapped_repeated :
    let schema : Schema := ⟨["## A", "## B", "## C"], [], by constructor <;> decide⟩
    let outline := ["## X", "## C", "## A", "## C", "## B"]
    Complete schema outline ∧ ¬ InOrder schema outline ∧
      .outOfOrder "## A" "## C" 1 ∈ template schema outline ∧
      .outOfOrder "## B" "## C" 2 ∈ artifact schema outline ∧
      SwappedInTemplate schema outline "## A" "## C" 1 ∧
      SwappedInArtifact schema outline "## B" "## C" 2 ∧
      ¬ Complete schema ["## C", "## A"] ∧
      .outOfOrder "## A" "## C" 1 ∉ template schema ["## C", "## A"] := by
  intro schema outline
  have hcomplete : Complete schema outline := by
    rw [← missing_eq_nil_iff]
    decide
  have hincomplete : ¬ Complete schema ["## C", "## A"] := by
    rw [← missing_eq_nil_iff]
    decide
  have htemplate : .outOfOrder "## A" "## C" 1 ∈ template schema outline := by decide
  have hartifact : .outOfOrder "## B" "## C" 2 ∈ artifact schema outline := by decide
  obtain ⟨-, hiff, hswapped⟩ := outOfOrder_names_swapped schema outline
  obtain ⟨hnone, -⟩ := outOfOrder_names_swapped schema ["## C", "## A"]
  exact ⟨hcomplete, (hiff hcomplete).1.mp ⟨_, _, _, htemplate⟩, htemplate, hartifact,
    (hswapped _ _ _).1 htemplate, (hswapped _ _ _).2 hartifact, hincomplete,
    (hnone hincomplete _ _ _).1⟩

end OutlineLint.Comparison

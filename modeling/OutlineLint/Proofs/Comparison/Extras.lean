import OutlineLint.Proofs.Comparison.Agreement

/-!
# Extra headings beside a violation of the order

The check for extra headings looks only at what the schema names, and both comparisons make it for
every complete outline, whether or not they have found the outline out of order
(`extra_mem_template_iff_unnamed`, `extra_mem_artifact_iff_unnamed`). So a violation of the order is
the end of a comparison just for outlines in which the schema names every heading
(`stopsAtOrder_iff_named`).
-/

namespace OutlineLint.Comparison

variable {schema : Schema} {outline headings : List String}

/-! ### Extra headings -/

/-- The schema names every heading of the outline. -/
def Named (schema : Schema) (outline : List String) : Prop :=
  ∀ heading ∈ outline, schema.isRecognized heading = true

lemma isRecognized_iff {heading : String} :
    schema.isRecognized heading = true ↔ heading ∈ schema.required ∨ heading ∈ schema.optional := by
  simp [Schema.isRecognized, Schema.isRequired]

lemma isRecognized_eq_false_iff {heading : String} :
    schema.isRecognized heading = false ↔
      heading ∉ schema.required ∧ heading ∉ schema.optional := by
  rw [← Bool.not_eq_true, isRecognized_iff, not_or]

lemma mem_extra_iff {heading : String} :
    heading ∈ extra schema outline ↔ heading ∈ outline ∧ schema.isRecognized heading = false := by
  rw [extra, List.mem_eraseDups, List.mem_filter, Bool.not_eq_true']

lemma extra_eq_nil_iff : extra schema outline = [] ↔ Named schema outline := by
  simp [List.eq_nil_iff_forall_not_mem, mem_extra_iff, Named]

lemma extraDeviation?_eq_none_iff :
    extraDeviation? schema outline = none ↔ Named schema outline := by
  rw [extraDeviation?, ← extra_eq_nil_iff]
  cases extra schema outline <;> simp

lemma extraDeviation?_eq_some_iff :
    extraDeviation? schema outline = some (.extra headings) ↔
      headings = extra schema outline ∧ ¬ Named schema outline := by
  rw [extraDeviation?, ← extra_eq_nil_iff]
  cases hextra : extra schema outline with
  | nil => simp
  | cons heading rest => simp [eq_comm]

/-- The extra headings of a template are those that the schema does not name. -/
lemma extra_mem_template_iff_unnamed :
    .extra headings ∈ template schema outline ↔
      Complete schema outline ∧ headings = extra schema outline ∧ ¬ Named schema outline := by
  rw [extra_mem_template_iff, extraDeviation?_eq_some_iff]

/-- The extra headings of an artifact are the same. -/
lemma extra_mem_artifact_iff_unnamed :
    .extra headings ∈ artifact schema outline ↔
      Complete schema outline ∧ headings = extra schema outline ∧ ¬ Named schema outline := by
  rw [extra_mem_artifact_iff, extraDeviation?_eq_some_iff]

/-! ### After a violation of the order -/

/-- There are no extra headings beside a violation of the order. -/
def StopsAtOrder (deviations : List Deviation) : Prop :=
  (∃ before after position, .outOfOrder before after position ∈ deviations) →
    ∀ headings, .extra headings ∉ deviations

/-- What decides whether a comparison goes on after a violation of the order, for a list of
deviations of which it is known when these two kinds are in it. -/
private lemma stopsAtOrder_iff_of_mem_iff {deviations : List Deviation}
    (horder : (∃ before after position, .outOfOrder before after position ∈ deviations) ↔
      Complete schema outline ∧ ¬ InOrder schema outline)
    (hextra : ∀ headings, .extra headings ∈ deviations ↔
      Complete schema outline ∧ headings = extra schema outline ∧ ¬ Named schema outline) :
    StopsAtOrder deviations ↔
      (Complete schema outline → InOrder schema outline ∨ Named schema outline) := by
  rw [StopsAtOrder, horder]
  constructor
  · intro hstops hcomplete
    by_contra hneither
    obtain ⟨hunordered, hunnamed⟩ := not_or.mp hneither
    have hmem := (hextra (extra schema outline)).mpr ⟨hcomplete, rfl, hunnamed⟩
    exact hstops ⟨hcomplete, hunordered⟩ _ hmem
  · rintro h ⟨hcomplete, hunordered⟩ headings hmem
    obtain ⟨-, -, hunnamed⟩ := (hextra headings).mp hmem
    exact (h hcomplete).elim hunordered hunnamed

/-- No extra headings are reported beside a violation of the order, of a template as of an artifact,
if and only if the outline, as far as it is complete, is in order or has only headings that the
schema names. Of a complete outline both report all the headings that the schema does not name. -/
theorem stopsAtOrder_iff_named (schema : Schema) (outline : List String) :
    (StopsAtOrder (template schema outline) ↔
      (Complete schema outline → InOrder schema outline ∨ Named schema outline)) ∧
    (StopsAtOrder (artifact schema outline) ↔
      (Complete schema outline → InOrder schema outline ∨ Named schema outline)) ∧
    ∀ headings,
      (.extra headings ∈ template schema outline ↔
        Complete schema outline ∧ headings = extra schema outline ∧ ¬ Named schema outline) ∧
      (.extra headings ∈ artifact schema outline ↔
        Complete schema outline ∧ headings = extra schema outline ∧ ¬ Named schema outline) := by
  refine ⟨?_, ?_, fun headings => ⟨?_, ?_⟩⟩
  · exact stopsAtOrder_iff_of_mem_iff exists_outOfOrder_mem_template_iff
      fun headings => extra_mem_template_iff_unnamed
  · exact stopsAtOrder_iff_of_mem_iff exists_outOfOrder_mem_artifact_iff
      fun headings => extra_mem_artifact_iff_unnamed
  · exact extra_mem_template_iff_unnamed
  · exact extra_mem_artifact_iff_unnamed

/-- Two required headings in the wrong order, and one that the schema does not name: both
comparisons report the one and the other. -/
theorem not_stopsAtOrder_swapped :
    let schema : Schema := ⟨["## A", "## B"], [], by constructor <;> decide⟩
    let outline := ["## B", "## A", "## X"]
    template schema outline = [.outOfOrder "## A" "## B" 1, .extra ["## X"]] ∧
      artifact schema outline = [.outOfOrder "## A" "## B" 1, .extra ["## X"]] ∧
      ¬ StopsAtOrder (template schema outline) ∧ ¬ StopsAtOrder (artifact schema outline) := by
  intro schema outline
  have htemplate : template schema outline = [.outOfOrder "## A" "## B" 1, .extra ["## X"]] := by
    decide
  have hartifact : artifact schema outline = [.outOfOrder "## A" "## B" 1, .extra ["## X"]] := by
    decide
  have hgoes : ¬ StopsAtOrder [.outOfOrder "## A" "## B" 1, .extra ["## X"]] := by
    intro hstops
    exact hstops ⟨"## A", "## B", 1, by decide⟩ ["## X"] (by decide)
  refine ⟨htemplate, hartifact, ?_, ?_⟩
  · rw [htemplate]
    exact hgoes
  · rw [hartifact]
    exact hgoes

end OutlineLint.Comparison

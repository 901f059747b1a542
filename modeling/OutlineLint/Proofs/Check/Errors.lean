import OutlineLint.Check.Agent
import OutlineLint.Check.Standards
import OutlineLint.Check.Structure
import OutlineLint.Proofs.Comparison.Agreement
import OutlineLint.Proofs.Report.Draft

/-!
# Which checks find errors

For each check, the documents in which it finds an error, in terms of their text alone.
-/

namespace OutlineLint.Check

open Comparison (Complete InOrder)

variable {entry : Catalog.Entry} {text : String}

/-! ### Structure -/

lemma severity_of_diagnostic? {path template : String} {role : Role} {deviation : Deviation}
    {d : Diagnostic} (h : diagnostic? path template role deviation = some d) :
    deviation.severity? role = some d.severity := by
  obtain ⟨severity, hseverity, rfl⟩ := Option.map_eq_some_iff.mp h
  exact hseverity

/-- A diagnostic is as severe as the policy takes its deviation to be. -/
lemma hasError_filterMap_diagnostic?_iff {path template : String} {role : Role}
    {deviations : List Deviation} :
    HasError (deviations.filterMap (diagnostic? path template role)) ↔
      ∃ deviation ∈ deviations, deviation.severity? role = some .error := by
  constructor
  · rintro ⟨d, hd, herror⟩
    obtain ⟨deviation, hmem, hdiagnostic⟩ := List.mem_filterMap.mp hd
    exact ⟨deviation, hmem, herror ▸ severity_of_diagnostic? hdiagnostic⟩
  · rintro ⟨deviation, hmem, herror⟩
    obtain ⟨d, hd⟩ : ∃ d, diagnostic? path template role deviation = some d := by
      simp [diagnostic?, herror]
    refine ⟨d, List.mem_filterMap.mpr ⟨deviation, hmem, hd⟩, ?_⟩
    exact Option.some.inj ((severity_of_diagnostic? hd).symm.trans herror)

/-- A template has an error unless it has all required headings in the order of the schema. -/
lemma hasError_template_iff :
    HasError (template entry text) ↔
      ¬ Complete entry.schema (Outline.headings text) ∨
        ¬ InOrder entry.schema (Outline.headings text) := by
  rw [template, hasError_filterMap_diagnostic?_iff]
  constructor
  · rintro ⟨deviation, hmem, herror⟩
    cases deviation with
    | missing headings => exact .inl (Comparison.missing_mem_template_iff.mp hmem).1
    | outOfOrder before after position =>
      exact .inr (Comparison.exists_outOfOrder_mem_template_iff.mp ⟨_, _, _, hmem⟩).2
    | extra headings => cases herror
    | optionalMisplaced heading anchor => cases herror
  · intro h
    by_cases hcomplete : Complete entry.schema (Outline.headings text)
    · obtain ⟨before, after, position, hmem⟩ := Comparison.exists_outOfOrder_mem_template_iff.mpr
        ⟨hcomplete, h.resolve_left (not_not_intro hcomplete)⟩
      exact ⟨_, hmem, rfl⟩
    · exact ⟨_, Comparison.missing_mem_template_iff.mpr ⟨hcomplete, rfl⟩, rfl⟩

/-- An artifact with all required headings has an error if they are not in the order of the schema,
and one that lacks some has an error under the standard strictness. -/
lemma hasError_artifact_iff {strictness : Strictness} {path : Path} :
    HasError (artifact entry strictness path text) ↔
      Complete entry.schema (Outline.headings text) ∧
          ¬ InOrder entry.schema (Outline.headings text) ∨
        strictness = .standard ∧ ¬ Complete entry.schema (Outline.headings text) := by
  rw [artifact, hasError_filterMap_diagnostic?_iff]
  constructor
  · rintro ⟨deviation, hmem, herror⟩
    cases deviation with
    | missing headings =>
      cases strictness with
      | relaxed => cases herror
      | standard => exact .inr ⟨rfl, (Comparison.missing_mem_artifact_iff.mp hmem).1⟩
    | outOfOrder before after position =>
      exact .inl (Comparison.exists_outOfOrder_mem_artifact_iff.mp ⟨_, _, _, hmem⟩)
    | extra headings => cases strictness <;> cases herror
    | optionalMisplaced heading anchor => cases herror
  · rintro (h | ⟨rfl, hcomplete⟩)
    · obtain ⟨before, after, position, hmem⟩ :=
        Comparison.exists_outOfOrder_mem_artifact_iff.mpr h
      exact ⟨_, hmem, rfl⟩
    · exact ⟨_, Comparison.missing_mem_artifact_iff.mpr ⟨hcomplete, rfl⟩, rfl⟩

/-! ### Agents -/

/-- One text stands somewhere in another. -/
def Occurs (part whole : String) : Prop := part.toList <:+: whole.toList

lemma contains_iff {part whole : String} : Text.contains whole part = true ↔ Occurs part whole :=
  Text.occursIn_iff

instance (part whole : String) : Decidable (Occurs part whole) :=
  decidable_of_iff _ contains_iff

/-- A block holds three of the required headings. -/
def HoldsThree (schema : Schema) (block : String) : Prop :=
  ∃ headings : List String, headings.Sublist schema.required ∧ headings.length = 3 ∧
    ∀ heading ∈ headings, Occurs heading block

lemma hasError_agentLink?_iff {agent template : Path} :
    HasError (agentLink? agent text template).toList ↔
      ¬ Occurs (agent.parent.relativeTo template) text := by
  rw [HasError.toList_iff, agentLink?, expectedLink, ← contains_iff]
  split
  · next h => simp [h]
  · next h => simp [h]

lemma three_le_headingCount_iff {schema : Schema} {block : String} :
    skeletonThreshold ≤ headingCount schema block ↔ HoldsThree schema block := by
  rw [headingCount, List.countP_eq_length_filter]
  constructor
  · intro h
    refine ⟨(schema.required.filter (Text.contains block)).take 3,
      (List.take_sublist ..).trans List.filter_sublist, List.length_take_of_le h,
      fun heading hheading => ?_⟩
    exact contains_iff.mp (List.mem_filter.mp (List.mem_of_mem_take hheading)).2
  · rintro ⟨headings, hsublist, hlength, hoccurs⟩
    rw [skeletonThreshold, ← hlength]
    refine List.Sublist.length_le ?_
    rw [← List.filter_eq_self.mpr fun heading h => contains_iff.mpr (hoccurs heading h)]
    exact hsublist.filter _

/-- A copy of the template is found if and only if a block holds three of the required headings. -/
lemma hasError_embeddedSkeleton?_iff {agent : Path} :
    HasError (embeddedSkeleton? agent text entry).toList ↔
      ∃ block ∈ Outline.blocks text, HoldsThree entry.schema block := by
  simp only [← three_le_headingCount_iff]
  rw [HasError.toList_iff, embeddedSkeleton?, skeleton?]
  constructor
  · rintro ⟨d, hd, -⟩
    obtain ⟨count, hcount, -⟩ := Option.map_eq_some_iff.mp hd
    obtain ⟨block, hblock, rfl⟩ := List.mem_map.mp (List.mem_of_find?_eq_some hcount)
    exact ⟨block, hblock, by simpa using List.find?_some hcount⟩
  · rintro ⟨block, hblock, hcount⟩
    have hsome : (((Outline.blocks text).map (headingCount entry.schema)).find?
        (skeletonThreshold ≤ ·)).isSome := by
      rw [List.find?_isSome]
      exact ⟨_, List.mem_map_of_mem hblock, by simpa using hcount⟩
    obtain ⟨count, hfound⟩ := Option.isSome_iff_exists.mp hsome
    rw [hfound]
    exact ⟨_, rfl, rfl⟩

/-! ### The standards document -/

lemma not_hasError_standards? {path : Path} {text? : Option String} :
    ¬ HasError (standards? path text?).toList := by
  cases text? with
  | none => simp [standards?]
  | some text =>
    rw [HasError.toList_iff, standards?]
    split
    · simp
    · simp

end OutlineLint.Check

import Mathlib.Control.Monad.Basic
import OutlineLint.Catalog.Load
import OutlineLint.Check.Structure
import OutlineLint.Proofs.Comparison.Extras
import OutlineLint.Proofs.Outline.Headings

/-!
# Templates without a finding

Nothing is reported about a template if and only if its outline has the required headings, in order,
and besides them only optional ones (`template_eq_nil_iff`). The required headings, each on a line,
are such a template as far as they can be headings at all. A schema may require other texts, though,
and then something is reported about every template (`exists_template_eq_nil_iff`).
-/

namespace OutlineLint

/-! ### Outlines without a deviation -/

namespace Comparison

variable {schema : Schema} {outline : List String}

/-- A template has no deviation if and only if its outline is complete and in order, and the schema
names every heading in it. -/
lemma template_eq_nil_iff :
    template schema outline = [] ↔
      Complete schema outline ∧ InOrder schema outline ∧ Named schema outline := by
  by_cases hcomplete : Complete schema outline
  · rw [template, missing_eq_nil_iff.mpr hcomplete]
    simp [hcomplete, templateOrder?_eq_none_iff hcomplete, extraDeviation?_eq_none_iff]
  · have hmissing := missing_mem_template_iff.mpr ⟨hcomplete, rfl⟩
    simp [hcomplete, List.ne_nil_of_mem hmissing]

/-- The required headings are themselves in order. -/
lemma inOrder_required (schema : Schema) : InOrder schema schema.required := by
  have hnodup := schema.valid.required_nodup
  refine List.pairwise_iff_getElem.mpr fun i j hi hj hij => ?_
  rw [Precedes, hnodup.idxOf_getElem, hnodup.idxOf_getElem]
  exact hij

lemma template_required (schema : Schema) : template schema schema.required = [] := by
  refine template_eq_nil_iff.mpr ⟨fun _ h => h, inOrder_required schema, fun _ h => ?_⟩
  exact isRecognized_iff.mpr (.inl h)

end Comparison

namespace Check

open Outline (IsHeading)

variable {entry : Catalog.Entry} {text : String}

/-! ### Documents without a finding -/

/-- Every deviation of a template is reported. -/
lemma template_eq_nil_iff :
    template entry text = [] ↔ Comparison.template entry.schema (Outline.headings text) = [] := by
  have hreported (path : String) (deviation : Deviation) :
      diagnostic? path path .template deviation ≠ none := by
    cases deviation <;> simp [diagnostic?, Deviation.severity?]
  rw [template, List.filterMap_eq_nil_iff, List.eq_nil_iff_forall_not_mem]
  constructor
  · intro h deviation hmem
    exact hreported _ _ (h deviation hmem)
  · intro h deviation hmem
    exact absurd hmem (h deviation)

/-- If nothing is reported about some template, the required headings are headings. -/
lemma isHeading_of_template_eq_nil (h : template entry text = []) :
    ∀ heading ∈ entry.schema.required, IsHeading heading := by
  obtain ⟨hcomplete, -, -⟩ := Comparison.template_eq_nil_iff.mp (template_eq_nil_iff.mp h)
  exact fun heading hheading => Outline.isHeading_of_mem_headings (hcomplete heading hheading)

/-- There is a template about which nothing is reported if and only if every required heading is a
text that can be a heading. The required headings, each on a line, are then such a template. -/
theorem exists_template_eq_nil_iff (entry : Catalog.Entry) :
    ((∃ text, template entry text = []) ↔ ∀ heading ∈ entry.schema.required, IsHeading heading) ∧
    ((∃ text, template entry text = []) ↔
      template entry ("\n".intercalate entry.schema.required) = []) := by
  have hrequired (h : ∀ heading ∈ entry.schema.required, IsHeading heading) :
      template entry ("\n".intercalate entry.schema.required) = [] := by
    rw [template_eq_nil_iff, Outline.headings_intercalate h]
    exact Comparison.template_required entry.schema
  constructor
  · constructor
    · rintro ⟨text, h⟩
      exact isHeading_of_template_eq_nil h
    · exact fun h => ⟨_, hrequired h⟩
  · constructor
    · rintro ⟨text, h⟩
      exact hrequired (isHeading_of_template_eq_nil h)
    · exact fun h => ⟨_, h⟩

/-- A catalog requires a heading with a blank at its end. The catalog is accepted, so the doctor
finds nothing wrong with it, but something is reported about every template. -/
theorem template_ne_nil_trailing_blank :
    let schema : Schema := ⟨["## Scope "], [], by constructor <;> decide⟩
    let entry : Catalog.Entry := ⟨⟨"plan", by decide⟩, "plan.md", .ofString "t.md", none, schema⟩
    let text := "\n".intercalate
      ["[[artifacts]]", "kind = 'plan'", "file_name = 'plan.md'", "template = 't.md'",
        "required = ['## Scope ']"]
    let catalog : Catalog :=
      ⟨.ofString Catalog.defaultOutputRoot, .ofString Catalog.defaultStandardsDoc, [entry]⟩
    Catalog.parse text = .ok catalog ∧
      (∀ wording (repo : Repository) path, repo.read path = .ok text →
        Catalog.doctor wording repo path = []) ∧
      entry ∈ catalog.entries ∧ ∀ document, template entry document ≠ [] := by
  intro schema entry text catalog
  have hparse : Catalog.parse text = .ok catalog := by
    subst text
    rw [Catalog.parse, Catalog.Sheet.parse, Toml.parse?, String.toList_intercalate]
    decide +kernel
  refine ⟨hparse, fun wording repo path hread => ?_, List.mem_singleton_self _, fun document h => ?_⟩
  · simp only [Catalog.doctor, Catalog.load, hread, hparse]
  · exact absurd (isHeading_of_template_eq_nil h "## Scope " (by decide)) (by decide)

end Check

end OutlineLint

import OutlineLint.Proofs.Check.Satisfiability
import OutlineLint.Proofs.Comparison.Content
import OutlineLint.Proofs.Outline.Sections

/-!
# Canonical documents

The outline of a document, each heading on a line, is a document with the same outline. It stays the
outline if bodies without headings and fences are written below the headings. So there is nothing to
report about a document that has the required headings in the order of the schema, be it a template
or an artifact under either strictness (`headings_canonical`).
-/

namespace OutlineLint

open Outline (IsHeading Section document headings)

/-- The required headings, in their order, are what an artifact should have. -/
lemma Comparison.artifact_required (schema : Schema) : artifact schema schema.required = [] := by
  obtain ⟨hcomplete, hinOrder, hnamed⟩ := template_eq_nil_iff.mp (template_required schema)
  have hplacement : placement schema schema.required = [] := by
    refine placement_eq_nil_iff.mpr fun heading hoptional hearly => ?_
    exact schema.valid.disjoint heading hoptional hearly.1
  exact artifact_eq_nil_iff.mpr ⟨⟨hcomplete, hinOrder⟩, hplacement, hnamed⟩

namespace Check

variable {entry : Catalog.Entry} {text : String}

/-- Nothing is reported about the text, neither as a template nor as an artifact. -/
def Passes (entry : Catalog.Entry) (text : String) : Prop :=
  template entry text = [] ∧ ∀ strictness path, artifact entry strictness path text = []

lemma passes_of_headings_eq (h : headings text = entry.schema.required) : Passes entry text := by
  refine ⟨?_, fun strictness path => ?_⟩
  · rw [template, h, Comparison.template_required, List.filterMap_nil]
  · rw [artifact, h, Comparison.artifact_required, List.filterMap_nil]

/-- The headings of a document start with the marker, do not end with a blank and are within one
line; each on a line, they are read again. Any such headings are the outline of the document that
writes below each of them a body without headings and fences. If they are the required ones,
nothing is reported about this document, nor about the one without bodies. -/
theorem headings_canonical :
    (∀ text, (∀ heading ∈ headings text, IsHeading heading) ∧
      headings ("\n".intercalate (headings text)) = headings text) ∧
    (∀ sections : List Section, (∀ s ∈ sections, s.WellFormed) →
      headings (document sections) = sections.map Section.heading) ∧
    ∀ entry : Catalog.Entry, (∀ heading ∈ entry.schema.required, IsHeading heading) →
      Passes entry ("\n".intercalate entry.schema.required) ∧
      ∀ sections : List Section, sections.map Section.heading = entry.schema.required →
        (∀ s ∈ sections, Outline.Plain s.body) → Passes entry (document sections) := by
  refine ⟨fun text => ?_, fun sections h => Outline.headings_document h, fun entry h => ⟨?_, ?_⟩⟩
  · have hheadings (heading : String) (hmem : heading ∈ headings text) : IsHeading heading :=
      Outline.isHeading_of_mem_headings hmem
    exact ⟨hheadings, Outline.headings_intercalate hheadings⟩
  · exact passes_of_headings_eq (Outline.headings_intercalate h)
  · intro sections hrequired hbodies
    have hwellFormed (s : Section) (hs : s ∈ sections) : s.WellFormed :=
      ⟨h s.heading (hrequired ▸ List.mem_map_of_mem hs), hbodies s hs⟩
    exact passes_of_headings_eq ((Outline.headings_document hwellFormed).trans hrequired)

/-- Headings with backticks, with a carriage return and with another marker in them, above bodies
with indented headings, short runs of backticks and both line endings. -/
theorem headings_canonical_unusual :
    let schema : Schema :=
      ⟨["## ```", "## a\rb", "## ## \u00e9"], ["## Notes"], by constructor <;> decide⟩
    let entry : Catalog.Entry := ⟨⟨"plan", by decide⟩, "plan.md", .ofString "t.md", none, schema⟩
    let sections : List Section :=
      [⟨"## ```", ""⟩, ⟨"## a\rb", " ## A\r\n``\n##"⟩, ⟨"## ## \u00e9", "### B\n\r\n ```\n"⟩]
    document sections = "## ```\n\n## a\rb\n ## A\r\n``\n##\n## ## \u00e9\n### B\n\r\n ```\n" ∧
      headings (document sections) = schema.required ∧ Passes entry (document sections) ∧
      Passes entry ("\n".intercalate schema.required) := by
  intro schema entry sections
  obtain ⟨-, hdocument, hpasses⟩ := headings_canonical
  have hrequired : ∀ heading ∈ entry.schema.required, IsHeading heading := by decide
  have hbodies : ∀ s ∈ sections, Outline.Plain s.body := by decide
  obtain ⟨hbare, hfull⟩ := hpasses entry hrequired
  exact ⟨by decide, hdocument sections (by decide), hfull sections rfl hbodies, hbare⟩

end Check

end OutlineLint

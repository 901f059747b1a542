import OutlineLint.Proofs.Check.Errors
import OutlineLint.Proofs.Path.Relative
import OutlineLint.Proofs.Text.Segments

/-!
# References that lead elsewhere

The document of an agent refers to the template if the way to the template stands somewhere in it.
So does the way to another file, if it has the segments of the way to the template among its own,
but for what is left of two of them at the ends (`occurs_relativeTo_iff`). A document with the way
to another file and nothing else is reported in all other cases (`referenceMissing_iff_not_spans`).
-/

namespace OutlineLint.Check

open Text (Spans)

variable {agent template other : Path} {text : String}

/-! ### The diagnostic -/

/-- The document is reported as one that does not refer to the template. -/
def ReferenceMissing (agent template : Path) (text : String) : Prop :=
  ∃ d, agentLink? agent text template = some d ∧ d.code = .referenceMissing ∧
    d.severity = .error ∧ d.path = some agent.display

lemma agentLink?_eq_none_iff :
    agentLink? agent text template = none ↔ Occurs (agent.parent.relativeTo template) text := by
  rw [← contains_iff, agentLink?, expectedLink]
  split
  · next h => simp [h]
  · next h => simp [h]

lemma referenceMissing_iff_not_occurs :
    ReferenceMissing agent template text ↔ ¬ Occurs (agent.parent.relativeTo template) text := by
  rw [← agentLink?_eq_none_iff]
  constructor
  · rintro ⟨d, hd, -⟩ hnone
    exact absurd (hd.symm.trans hnone) (Option.some_ne_none d)
  · intro h
    rw [agentLink?] at h
    split at h
    · exact absurd rfl h
    · next hcontains =>
      refine ⟨_, if_neg hcontains, rfl, rfl, rfl⟩

/-! ### One way in another -/

/-- The segments of a way, as lists of characters. -/
def segments (dir target : Path) : List (List Char) := (dir.wayTo target).map String.toList

lemma toList_relativeTo (dir target : Path) :
    (dir.relativeTo target).toList = ['/'].intercalate (segments dir target) := by
  rw [Path.relativeTo, String.toList_intercalate]
  rfl

/-- The way to a relative path stands in the way to another one if and only if its segments are
among the others, but for what is left at both ends. -/
lemma occurs_relativeTo_iff {dir : Path} (htemplate : template.isAbsolute = false)
    (hother : other.isAbsolute = false) :
    Occurs (dir.relativeTo template) (dir.relativeTo other) ↔
      Spans (segments dir template) (segments dir other) := by
  rw [Occurs, toList_relativeTo, toList_relativeTo, Text.spans_iff_infix]
  · intro segment h
    obtain ⟨s, hs, rfl⟩ := List.mem_map.mp h
    exact Path.segment_of_mem_wayTo htemplate hs
  · intro segment h
    obtain ⟨s, hs, rfl⟩ := List.mem_map.mp h
    exact (Path.segment_of_mem_wayTo hother hs).2

/-- A document with the way to some relative path and nothing else is reported for a template if and
only if the way to the template does not stand in it, that is, if and only if the segments of that way
are not among those of its own, but for what is left at both ends. Otherwise there is no diagnostic. -/
theorem referenceMissing_iff_not_spans (agent : Path) {template other : Path}
    (htemplate : template.isAbsolute = false) (hother : other.isAbsolute = false) :
    let text := agent.parent.relativeTo other
    (ReferenceMissing agent template text ↔ ¬ Occurs (agent.parent.relativeTo template) text) ∧
    (Occurs (agent.parent.relativeTo template) text ↔
      Spans (segments agent.parent template) (segments agent.parent other)) ∧
    (ReferenceMissing agent template text ↔
      ¬ Spans (segments agent.parent template) (segments agent.parent other)) ∧
    (agentLink? agent text template = none ↔
      Spans (segments agent.parent template) (segments agent.parent other)) := by
  intro text
  have hspans : Occurs (agent.parent.relativeTo template) text ↔
      Spans (segments agent.parent template) (segments agent.parent other) :=
    occurs_relativeTo_iff htemplate hother
  refine ⟨referenceMissing_iff_not_occurs, hspans, ?_, ?_⟩
  · rw [← hspans]
    exact referenceMissing_iff_not_occurs
  · rw [← hspans]
    exact agentLink?_eq_none_iff

/-- A directory with a name that ends in two dots is taken for the way up, and one with another name
is not. -/
theorem referenceMissing_iff_not_spans_two_dots :
    let agent := Path.ofString "agents/x.md"
    let template := Path.ofString "t.md"
    let dotted := Path.ofString "agents/x../t.md"
    let plain := Path.ofString "agents/x/t.md"
    template.isAbsolute = false ∧ dotted.isAbsolute = false ∧ plain.isAbsolute = false ∧
      segments agent.parent template = ["..".toList, "t.md".toList] ∧
      segments agent.parent dotted = ["x..".toList, "t.md".toList] ∧
      agentLink? agent (agent.parent.relativeTo dotted) template = none ∧
      ReferenceMissing agent template (agent.parent.relativeTo plain) ∧
      ¬ Spans (segments agent.parent template) (segments agent.parent plain) := by
  intro agent template dotted plain
  have htemplate : template.isAbsolute = false := by decide
  have hdotted : dotted.isAbsolute = false := by decide
  have hplain : plain.isAbsolute = false := by decide
  have hsegments : segments agent.parent template = ["..".toList, "t.md".toList] := by
    decide +kernel
  have hsegments' : segments agent.parent dotted = ["x..".toList, "t.md".toList] := by
    decide +kernel
  have hspans : Spans (segments agent.parent template) (segments agent.parent dotted) := by
    rw [hsegments, hsegments']
    exact @Spans.across _ _ _ _ _ [] [] [] ⟨['x'], rfl⟩ List.prefix_rfl
  have hmissing : ReferenceMissing agent template (agent.parent.relativeTo plain) :=
    referenceMissing_iff_not_occurs.mpr (by decide +kernel)
  refine ⟨htemplate, hdotted, hplain, hsegments, hsegments', ?_, hmissing, ?_⟩
  · exact (referenceMissing_iff_not_spans agent htemplate hdotted).2.2.2.mpr hspans
  · exact (referenceMissing_iff_not_spans agent htemplate hplain).2.2.1.mp hmissing

/-- The way to a file of the same name further up holds the way to the template, so a document that
leads there is not reported. -/
theorem agentLink?_eq_none_further_up :
    let agent := Path.ofString "a/b/x.md"
    let template := Path.ofString "a/t.md"
    let other := Path.ofString "t.md"
    template.isAbsolute = false ∧ other.isAbsolute = false ∧
      other.normalize ≠ template.normalize ∧
      agent.parent.relativeTo other = "../../t.md" ∧
      agent.parent.relativeTo template = "../t.md" ∧
      agentLink? agent "../../t.md" template = none := by
  decide +kernel

end OutlineLint.Check

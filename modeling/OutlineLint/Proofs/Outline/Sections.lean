import OutlineLint.Proofs.Outline.Composition
import OutlineLint.Proofs.Outline.Headings

/-!
# Documents of sections

A section is a heading with a body below it. If no line of a body starts like a heading or like a
fence, no fence dangles in a section, and sections can be written one after the other: the outline of
the document is the list of their headings (`headings_document`).
-/

namespace OutlineLint.Outline

/-- A heading and what is written below it. -/
structure Section where
  heading : String
  body : String
  deriving DecidableEq, Repr

/-- The section as it is written. -/
def Section.text (s : Section) : String := s.heading ++ "\n" ++ s.body

/-- The document with the given sections, one after the other. -/
def document (sections : List Section) : String :=
  "\n".intercalate (sections.map Section.text)

/-- No line of the text starts with the marker of a heading or with three backticks. -/
def Plain (text : String) : Prop :=
  ∀ line ∈ Text.lines text.toList, ¬ headingMarker <+: line ∧ ¬ Closes 3 line

instance (text : String) : Decidable (Plain text) :=
  inferInstanceAs (Decidable (∀ line ∈ Text.lines text.toList,
    ¬ headingMarker <+: line ∧ ¬ Closes 3 line))

/-- The heading of the section can be one, and the body has neither headings nor fences. -/
@[mk_iff]
structure Section.WellFormed (s : Section) : Prop where
  heading : IsHeading s.heading
  body : Plain s.body

instance (s : Section) : Decidable s.WellFormed :=
  decidable_of_iff _ (Section.wellFormed_iff s).symm

/-! ### One section -/

namespace IsHeading

variable {heading : String}

lemma lines_toList (h : IsHeading heading) : Text.lines heading.toList = [heading.toList] := by
  rw [Text.lines_eq_map_rawLines, Text.rawLines_of_not_mem h.oneLine, List.map_singleton,
    h.dropReturn_toList]

lemma headings_eq (h : IsHeading heading) : headings heading = [heading] := by
  simpa using headings_intercalate (List.forall_mem_singleton.mpr h)

lemma dangling_eq (h : IsHeading heading) : dangling heading = [] := by
  refine dangling_eq_nil_of_not_closes fun line hline => ?_
  rw [h.lines_toList, List.mem_singleton] at hline
  exact hline ▸ h.not_closes (by decide)

end IsHeading

namespace Section.WellFormed

variable {s : Section}

lemma separate (h : s.WellFormed) : Separate s.heading s.body :=
  separate_of_dangling_eq_nil h.heading.dangling_eq

lemma headings_text (h : s.WellFormed) : headings s.text = [s.heading] := by
  rw [Section.text, h.separate.headings_eq, h.heading.headings_eq,
    headings_eq_nil fun line hline => (h.body line hline).1, List.append_nil]

lemma dangling_text (h : s.WellFormed) : dangling s.text = [] := by
  rw [Section.text, h.separate.dangling_eq, h.heading.dangling_eq,
    dangling_eq_nil_of_not_closes fun line hline => (h.body line hline).2, List.append_nil]

end Section.WellFormed

/-! ### The whole document -/

/-- The outline of a document of sections is the list of their headings. -/
lemma headings_document {sections : List Section} (h : ∀ s ∈ sections, s.WellFormed) :
    headings (document sections) = sections.map Section.heading := by
  induction sections with
  | nil => decide
  | cons s rest ih =>
    obtain ⟨hs, hrest⟩ := List.forall_mem_cons.mp h
    cases rest with
    | nil => simpa [document] using hs.headings_text
    | cons next rest =>
      have hdocument : document (s :: next :: rest) =
          s.text ++ "\n" ++ document (next :: rest) := by
        simp [document]
      have hseparate : Separate s.text (document (next :: rest)) :=
        separate_of_dangling_eq_nil hs.dangling_text
      rw [hdocument, hseparate.headings_eq, hs.headings_text, ih hrest]
      rfl

end OutlineLint.Outline

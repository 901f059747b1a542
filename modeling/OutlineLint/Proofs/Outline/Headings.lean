import Mathlib.Data.List.DropRight
import OutlineLint.Proofs.Outline.Classification
import OutlineLint.Proofs.Text.Lines

/-!
# Which outlines documents have

A document can have a text as a heading if the text starts with the marker of level 2, does not end
with a blank and is within one line (`IsHeading`). No such text opens a fence. So if any of them are
written line by line, the outline of the document is just these (`headings_intercalate`), and there
are no other outlines (`exists_headings_eq_iff`).
-/

namespace OutlineLint

/-! ### Blanks at the end -/

lemma Text.trimEnd_trimEnd (cs : List Char) : trimEnd (trimEnd cs) = trimEnd cs :=
  List.rdropWhile_idempotent isBlank cs

lemma Text.trimEnd_prefix_self (cs : List Char) : trimEnd cs <+: cs :=
  List.rdropWhile_prefix isBlank cs

lemma Text.trimEnd_subset (cs : List Char) : trimEnd cs ⊆ cs :=
  (trimEnd_prefix_self cs).subset

lemma Text.trimEnd_eq_self_iff {cs : List Char} :
    trimEnd cs = cs ↔ ∀ c, cs.getLast? = some c → isBlank c = false := by
  rw [show trimEnd cs = cs.rdropWhile isBlank from rfl, List.rdropWhile_eq_self_iff]
  constructor
  · intro h c hc
    obtain ⟨front, rfl⟩ := List.getLast?_eq_some_iff.mp hc
    simpa using h (by simp)
  · intro h hne
    simp [h _ (List.getLast?_eq_some_getLast hne)]

namespace Outline

variable {heading text : String} {line : List Char}

/-! ### Headings -/

/-- A text that can be a heading. -/
@[mk_iff]
structure IsHeading (heading : String) : Prop where
  marked : headingMarker <+: heading.toList
  trimmed : Text.trimEnd heading.toList = heading.toList
  oneLine : '\n' ∉ heading.toList

instance (heading : String) : Decidable (IsHeading heading) :=
  decidable_of_iff _ (isHeading_iff heading).symm

lemma heading?_eq_some_iff : heading? line = some heading ↔
    headingMarker <+: Text.trimEnd line ∧ heading.toList = Text.trimEnd line := by
  simp only [heading?, Option.ite_none_right_eq_some, Option.some.injEq, List.isPrefixOf_iff_prefix]
  refine and_congr_right fun _ => ⟨?_, fun h => ?_⟩
  · rintro rfl
    exact String.toList_ofList
  · rw [← h, String.ofList_toList]

lemma heading?_eq_none (h : ¬ headingMarker <+: line) : heading? line = none := by
  refine Option.eq_none_iff_forall_ne_some.mpr fun heading hheading => ?_
  exact h ((heading?_eq_some_iff.mp hheading).1.trans (Text.trimEnd_prefix_self line))

/-- What starts with a backtick does not start with the marker of a heading. -/
lemma Closes.not_marked {run : Nat} (h : Closes run line) (hrun : run ≠ 0) :
    ¬ headingMarker <+: line := by
  rintro ⟨rest, rfl⟩
  obtain ⟨n, rfl⟩ := Nat.exists_eq_succ_of_ne_zero hrun
  rw [Closes, List.replicate_succ, headingMarker, List.cons_append, List.cons_prefix_cons] at h
  exact absurd h.1 (by decide)

/-! ### The headings of a document -/

/-- What a line without line feed is read as is a heading. -/
lemma isHeading_of_heading? (h : heading? line = some heading) (hline : '\n' ∉ line) :
    IsHeading heading := by
  obtain ⟨hmarked, htrimmed⟩ := heading?_eq_some_iff.mp h
  refine ⟨htrimmed ▸ hmarked, ?_, ?_⟩
  · rw [htrimmed, Text.trimEnd_trimEnd]
  · rw [htrimmed]
    exact fun hnewline => hline (Text.trimEnd_subset line hnewline)

/-- A heading of a document is a line of it. -/
lemma exists_line_of_mem_headings (h : heading ∈ headings text) :
    ∃ line ∈ Text.lines text.toList, heading? line = some heading := by
  obtain ⟨pieces, hpieces⟩ := exists_parses (Text.lines text.toList)
  rw [headings_eq_of_parses hpieces] at h
  obtain ⟨line, hline, hheading⟩ := List.mem_filterMap.mp h
  have hmem := mem_linesOf_of_text_mem (mem_textsOf_iff.mp hline)
  exact ⟨line, hpieces.linesOf_eq ▸ hmem, hheading⟩

/-- Whatever stands in the outline of a document is a heading. -/
lemma isHeading_of_mem_headings (h : heading ∈ headings text) : IsHeading heading := by
  obtain ⟨line, hline, hheading⟩ := exists_line_of_mem_headings h
  exact isHeading_of_heading? hheading (Text.newline_not_mem_of_mem_lines hline)

lemma headings_eq_nil (h : ∀ line ∈ Text.lines text.toList, ¬ headingMarker <+: line) :
    headings text = [] := by
  refine List.eq_nil_iff_forall_not_mem.mpr fun heading hheading => ?_
  obtain ⟨line, hline, hsome⟩ := exists_line_of_mem_headings hheading
  exact absurd hsome (by simp [heading?_eq_none (h line hline)])

/-! ### Documents of headings -/

namespace IsHeading

lemma heading?_toList (h : IsHeading heading) : heading? heading.toList = some heading :=
  heading?_eq_some_iff.mpr ⟨h.trimmed.symm ▸ h.marked, h.trimmed.symm⟩

lemma dropReturn_toList (h : IsHeading heading) :
    Text.dropReturn heading.toList = heading.toList := by
  rw [Text.dropReturn, if_neg]
  exact fun hlast => absurd (Text.trimEnd_eq_self_iff.mp h.trimmed _ hlast) (by decide)

/-- A heading does not start with a backtick, so it neither opens nor closes a fence. -/
lemma not_closes (h : IsHeading heading) {run : Nat} (hrun : run ≠ 0) :
    ¬ Closes run heading.toList :=
  fun hcloses => hcloses.not_marked hrun h.marked

lemma not_opens (h : IsHeading heading) (run : Nat) : ¬ Opens run heading.toList :=
  fun hopens => h.not_closes hopens.ne_zero hopens.closes

end IsHeading

/-- Lines that open no fence are ordinary text. -/
lemma parses_map_text {lines : List (List Char)} (h : ∀ line ∈ lines, ∀ run, ¬ Opens run line) :
    Parses lines (lines.map .text) := by
  induction lines with
  | nil => exact .nil
  | cons line lines ih =>
    obtain ⟨hline, hlines⟩ := List.forall_mem_cons.mp h
    exact .text (fun run hopens => absurd hopens (hline run)) (ih hlines)

lemma textsOf_map_text (lines : List (List Char)) : textsOf (lines.map .text) = lines := by
  induction lines with
  | nil => rfl
  | cons line lines ih => simp [ih]

lemma lines_intercalate {outline : List String} (hne : outline ≠ [])
    (h : ∀ heading ∈ outline, IsHeading heading) :
    Text.lines ("\n".intercalate outline).toList = outline.map String.toList := by
  have honeLine : ∀ line ∈ outline.map String.toList, '\n' ∉ line := by
    simpa using fun heading hheading => (h heading hheading).oneLine
  have hreturn : (outline.map String.toList).map Text.dropReturn = outline.map String.toList := by
    rw [List.map_map]
    exact List.map_congr_left fun heading hheading => (h heading hheading).dropReturn_toList
  have hraw : Text.rawLines ("\n".intercalate outline).toList = outline.map String.toList := by
    rw [String.toList_intercalate]
    exact Text.rawLines_unlines (by simpa using hne) honeLine
  rw [Text.lines_eq_map_rawLines, hraw, hreturn]

/-- Headings, each on a line, are a document with these as its outline. -/
lemma headings_intercalate {outline : List String} (h : ∀ heading ∈ outline, IsHeading heading) :
    headings ("\n".intercalate outline) = outline := by
  by_cases hne : outline = []
  · -- the document without headings is a single empty line
    subst hne
    decide
  · have hopens : ∀ line ∈ outline.map String.toList, ∀ run, ¬ Opens run line := by
      simpa using fun heading hheading => (h heading hheading).not_opens
    have hparses := parses_map_text hopens
    rw [← lines_intercalate hne h] at hparses
    calc headings ("\n".intercalate outline)
        = (outline.map String.toList).filterMap heading? := by
          rw [headings_eq_of_parses hparses, textsOf_map_text, lines_intercalate hne h]
      _ = outline.filterMap some := by
          rw [List.filterMap_map]
          exact List.filterMap_congr fun heading hheading => (h heading hheading).heading?_toList
      _ = outline := List.filterMap_some

/-- A list of texts is the outline of some document if and only if each of them is a heading. -/
theorem exists_headings_eq_iff {outline : List String} :
    (∃ text, headings text = outline) ↔ ∀ heading ∈ outline, IsHeading heading := by
  constructor
  · rintro ⟨text, rfl⟩ heading h
    exact isHeading_of_mem_headings h
  · exact fun h => ⟨_, headings_intercalate h⟩

end Outline

end OutlineLint

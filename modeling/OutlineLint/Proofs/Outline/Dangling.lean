import OutlineLint.Proofs.Outline.Headings

/-!
# Openers that nothing closes

A fence that no later line closes is no fence, and its opener is a line of text. Lines of text can be
exchanged without an effect on the part that any other line plays, for lines that do not start with
three backticks (`Parses.replace_text`). As an opener is no heading, it is as good as an empty line
(`headings_blocks_replaceLine`), whatever other fences there are around it.
-/

namespace OutlineLint.Outline

/-- In the place of a line of text, any line is a line of text that does not start with three
backticks. -/
lemma Parses.replace_text {lines : List (List Char)} {ps qs : List Piece} {line new : List Char}
    (h : Parses lines (ps ++ .text line :: qs)) (hnew : ¬ Closes 3 new) :
    Parses (linesOf ps ++ new :: linesOf qs) (ps ++ .text new :: qs) := by
  have hqs : Parses (linesOf qs) qs := by
    rw [← List.singleton_append, ← List.append_assoc] at h
    exact h.of_append
  have hnew' : Parses (new :: linesOf qs) (.text new :: qs) :=
    .text (fun run hopens => absurd (hopens.closes.of_le hopens.1) hnew) hqs
  refine h.append_congr hnew' fun run hrun hunclosed later hlater => ?_
  rcases List.mem_cons.mp hlater with rfl | hlater
  · exact fun hcloses => hnew (hcloses.of_le hrun)
  · exact hunclosed later (by simp [hlater])

/-- An opener is no heading. -/
lemma Opens.heading?_eq_none {run : Nat} {line : List Char} (h : Opens run line) :
    heading? line = none :=
  Outline.heading?_eq_none (h.closes.not_marked h.ne_zero)

/-- Replacing an opener that is ordinary text by an empty line, with either line ending, changes the
part of no other line, and so neither the headings nor the blocks. -/
theorem headings_blocks_replaceLine (text : String) {i run : Nat} {line empty : List Char}
    (hline : (classify text.toList)[i]? = some (.text line)) (hopens : Opens run line)
    (hempty : empty = [] ∨ empty = ['\r']) :
    let edited := String.ofList (Text.replaceLine text.toList i empty)
    classify edited.toList = (classify text.toList).set i (.text []) ∧
      headings edited = headings text ∧ blocks edited = blocks text := by
  intro edited
  obtain ⟨pieces, hpieces⟩ := exists_parses (Text.lines text.toList)
  have hclassify : classify text.toList = partsOf pieces := classifyLines_eq_of_parses hpieces
  rw [hclassify] at hline ⊢
  obtain ⟨ps, qs, rfl, rfl⟩ := exists_text_of_getElem? hline
  have hreturn : Text.dropReturn empty = [] := by rcases hempty with rfl | rfl <;> rfl
  have hnewline : '\n' ∉ empty := by rcases hempty with rfl | rfl <;> decide
  have hlines : Text.lines edited.toList = linesOf ps ++ [] :: linesOf qs := by
    rw [String.toList_ofList, Text.lines_replaceLine _ _ hnewline, hreturn, ← hpieces.linesOf_eq]
    simp
  have hedited : Parses (Text.lines edited.toList) (ps ++ .text [] :: qs) :=
    hlines ▸ hpieces.replace_text (by decide)
  refine ⟨?_, ?_, ?_⟩
  · rw [classify, classifyLines_eq_of_parses hedited]
    simp [← length_partsOf]
  · have hnone : heading? [] = none := rfl
    rw [headings_eq_of_parses hedited, headings_eq_of_parses hpieces]
    simp [hopens.heading?_eq_none, hnone]
  · rw [blocks_eq_of_parses hedited, blocks_eq_of_parses hpieces]
    simp

/-- Openers of five, four and three backticks, all of them text, stand before, between and after two
blocks. The one of four backticks makes place for an empty line. -/
theorem headings_blocks_replaceLine_among_others :
    let text := "`````\n## A\n```\n## B\n```\n````sh\r\n## C\n```md\n## D\n```\n```\n## E"
    let edited := String.ofList (Text.replaceLine text.toList 5 ['\r'])
    edited = "`````\n## A\n```\n## B\n```\n\r\n## C\n```md\n## D\n```\n```\n## E" ∧
      classify edited.toList = (classify text.toList).set 5 (.text []) ∧
      headings edited = headings text ∧ blocks edited = blocks text := by
  intro text edited
  have hline : (classify text.toList)[5]? = some (.text "````sh".toList) := by decide
  have hopens : Opens 4 "````sh".toList := by decide
  exact ⟨by decide, headings_blocks_replaceLine text hline hopens (.inr rfl)⟩

end OutlineLint.Outline

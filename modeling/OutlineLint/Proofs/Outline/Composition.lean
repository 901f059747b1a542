import OutlineLint.Proofs.Outline.Classification
import OutlineLint.Proofs.Text.Lines

/-!
# Documents one after the other

A line can close a fence that dangles above it, and what was a heading in between is one no longer.
Nothing else happens when one document is written after another: each line plays the part that it
plays in its own document if and only if no line of the second closes a fence that dangles in the
first (`classify_append_iff`). For this it is enough that no fence dangles in the first, or that no
line of the second starts with three backticks (`headings_blocks_append`).
-/

namespace OutlineLint.Outline

variable {a b : String}

/-! ### Fences that dangle -/

/-- The number of backticks of an opener that is ordinary text. -/
def Line.dangling? : Line → Option Nat
  | .text content => fenceRun? content
  | .opener | .body _ | .closer => none

/-- The openers of a document that nothing closes, each by the number of its backticks. -/
def dangling (text : String) : List Nat :=
  (classify text.toList).filterMap Line.dangling?

lemma mem_dangling_iff {text : String} {run : Nat} :
    run ∈ dangling text ↔
      ∃ opener, .text opener ∈ classify text.toList ∧ Opens run opener := by
  rw [dangling, List.mem_filterMap]
  constructor
  · rintro ⟨part, hpart, hrun⟩
    cases part with
    | text opener => exact ⟨opener, hpart, fenceRun?_eq_some_iff.mp hrun⟩
    | opener | body _ | closer => contradiction
  · rintro ⟨opener, hopener, hopens⟩
    exact ⟨_, hopener, fenceRun?_eq_some_iff.mpr hopens⟩

/-- A fence dangles if and only if its opener is a piece by itself. -/
lemma mem_dangling_iff_of_parses {text : String} {pieces : List Piece} {run : Nat}
    (h : Parses (Text.lines text.toList) pieces) :
    run ∈ dangling text ↔ ∃ opener, .text opener ∈ pieces ∧ Opens run opener := by
  rw [mem_dangling_iff, classify, classifyLines_eq_of_parses h]
  exact exists_congr fun opener => and_congr_left fun _ => text_mem_partsOf_iff

lemma dangling_eq_nil_of_not_closes {text : String}
    (h : ∀ line ∈ Text.lines text.toList, ¬ Closes 3 line) : dangling text = [] := by
  obtain ⟨pieces, hpieces⟩ := exists_parses (Text.lines text.toList)
  refine List.eq_nil_iff_forall_not_mem.mpr fun run hrun => ?_
  obtain ⟨opener, hopener, hopens⟩ := (mem_dangling_iff_of_parses hpieces).mp hrun
  have hline := hpieces.linesOf_eq ▸ mem_linesOf_of_text_mem hopener
  exact h opener hline (hopens.closes.of_le hopens.1)

/-- No fence dangles if and only if a scan of the whole document ends outside of fences. -/
theorem dangling_eq_nil_iff {text : String} :
    dangling text = [] ↔ (scan 0 none (Text.lines text.toList)).2 = none := by
  have hscanned := scanned_scan 0 (Text.lines text.toList)
  generalize scan 0 none (Text.lines text.toList) = found at hscanned
  generalize hlines : Text.lines text.toList = lines at hscanned
  cases hscanned with
  | closed pieces hpieces =>
    have hparses : Parses (Text.lines text.toList) pieces := by
      rw [hlines]
      simpa using Parses.settled_append hpieces .nil
    refine iff_of_true (List.eq_nil_iff_forall_not_mem.mpr fun run hrun => ?_) rfl
    obtain ⟨opener, hopener, hopens⟩ := (mem_dangling_iff_of_parses hparses).mp hrun
    exact hpieces _ hopener run hopens
  | @dangling pieces run opener rest hpieces hopener hrest =>
    obtain ⟨qs, hqs⟩ := exists_parses rest
    have hunclosed : ∀ n, Opens n opener → ∀ later ∈ rest, ¬ Closes n later :=
      fun n hn => hn.unique hopener ▸ hrest
    have hparses : Parses (Text.lines text.toList) (pieces ++ .text opener :: qs) := by
      rw [hlines]
      exact Parses.settled_append hpieces (.text hunclosed hqs)
    refine iff_of_false (List.ne_nil_of_mem (a := run) ?_) (Option.some_ne_none _)
    exact (mem_dangling_iff_of_parses hparses).mpr ⟨opener, by simp, hopener⟩

/-- No line of the second document closes a fence that dangles in the first. -/
def Separate (a b : String) : Prop :=
  ∀ run ∈ dangling a, ∀ line ∈ Text.lines b.toList, ¬ Closes run line

instance (a b : String) : Decidable (Separate a b) :=
  inferInstanceAs (Decidable (∀ run ∈ dangling a, ∀ line ∈ Text.lines b.toList, ¬ Closes run line))

lemma separate_of_dangling_eq_nil (h : dangling a = []) : Separate a b := by
  simp [Separate, h]

lemma separate_of_not_closes (h : ∀ line ∈ Text.lines b.toList, ¬ Closes 3 line) :
    Separate a b := by
  intro run hrun line hline hcloses
  obtain ⟨opener, -, hopens⟩ := mem_dangling_iff.mp hrun
  exact h line hline (hcloses.of_le hopens.1)

/-! ### The parts of both documents -/

lemma lines_append (a b : String) :
    Text.lines (a ++ "\n" ++ b).toList = Text.lines a.toList ++ Text.lines b.toList := by
  simp [← Text.lines_append_newline]

lemma length_classify (text : String) :
    (classify text.toList).length = (Text.lines text.toList).length := by
  obtain ⟨pieces, hpieces⟩ := exists_parses (Text.lines text.toList)
  rw [classify, classifyLines_eq_of_parses hpieces, length_partsOf, hpieces.linesOf_eq]

namespace Separate

lemma parses (h : Separate a b) {ps qs : List Piece} (hps : Parses (Text.lines a.toList) ps)
    (hqs : Parses (Text.lines b.toList) qs) :
    Parses (Text.lines (a ++ "\n" ++ b).toList) (ps ++ qs) := by
  have hpieces : Parses (Text.lines a.toList) (ps ++ []) := by simpa using hps
  rw [lines_append, ← hps.linesOf_eq]
  refine hpieces.append_of_unclosed hqs fun opener hmem run hopens => h run ?_
  exact (mem_dangling_iff_of_parses hps).mpr ⟨opener, hmem, hopens⟩

lemma classify_eq (h : Separate a b) :
    classify (a ++ "\n" ++ b).toList = classify a.toList ++ classify b.toList := by
  obtain ⟨ps, hps⟩ := exists_parses (Text.lines a.toList)
  obtain ⟨qs, hqs⟩ := exists_parses (Text.lines b.toList)
  rw [classify, classify, classify, classifyLines_eq_of_parses (h.parses hps hqs),
    classifyLines_eq_of_parses hps, classifyLines_eq_of_parses hqs, partsOf_append]

lemma headings_eq (h : Separate a b) :
    headings (a ++ "\n" ++ b) = headings a ++ headings b := by
  rw [headings, h.classify_eq, List.filterMap_append]
  rfl

lemma dangling_eq (h : Separate a b) :
    dangling (a ++ "\n" ++ b) = dangling a ++ dangling b := by
  rw [dangling, h.classify_eq, List.filterMap_append]
  rfl

lemma blocks_eq (h : Separate a b) : blocks (a ++ "\n" ++ b) = blocks a ++ blocks b := by
  obtain ⟨ps, hps⟩ := exists_parses (Text.lines a.toList)
  obtain ⟨qs, hqs⟩ := exists_parses (Text.lines b.toList)
  rw [blocks_eq_of_parses (h.parses hps hqs), blocks_eq_of_parses hps, blocks_eq_of_parses hqs]
  simp

end Separate

/-- Each line of two documents, one after the other, plays the part that it plays in its own
document if and only if no line of the second closes a fence that dangles in the first. -/
theorem classify_append_iff :
    classify (a ++ "\n" ++ b).toList = classify a.toList ++ classify b.toList ↔ Separate a b := by
  refine ⟨fun h run hrun => ?_, Separate.classify_eq⟩
  obtain ⟨opener, hmem, hopens⟩ := mem_dangling_iff.mp hrun
  obtain ⟨i, hi⟩ := List.mem_iff_getElem?.mp hmem
  have hlt : i < (Text.lines a.toList).length :=
    length_classify a ▸ (List.getElem?_eq_some_iff.mp hi).1
  obtain ⟨pieces, hpieces⟩ := exists_parses (Text.lines (a ++ "\n" ++ b).toList)
  have hget : (partsOf pieces)[i]? = some (.text opener) := by
    rw [← classifyLines_eq_of_parses hpieces, ← classify, h,
      List.getElem?_append_left (by rwa [length_classify]), hi]
  obtain ⟨ps, qs, rfl, rfl⟩ := exists_text_of_getElem? hget
  -- in the long document the opener is text, too, and the second document is below it
  have hlines := hpieces.linesOf_eq
  rw [lines_append, linesOf_append, linesOf_cons, Piece.lines_text] at hlines
  have hbelow : Text.lines b.toList <:+ linesOf qs := by
    have hqs : linesOf qs <:+ Text.lines a.toList ++ Text.lines b.toList :=
      ⟨linesOf ps ++ [opener], by simpa using hlines⟩
    have hlength := congrArg List.length hlines
    simp only [List.length_append, List.length_singleton] at hlength
    exact List.suffix_of_suffix_length_le (List.suffix_append _ _) hqs (by omega)
  exact fun line hline => hpieces.not_closes_of_text hopens line (hbelow.subset hline)

/-- If every fence of the first document is closed in it, or if no line of the second starts with
three backticks, then one after the other they have the headings and the blocks of both. -/
theorem headings_blocks_append (a b : String)
    (h : dangling a = [] ∨ ∀ line ∈ Text.lines b.toList, ¬ Closes 3 line) :
    headings (a ++ "\n" ++ b) = headings a ++ headings b ∧
      blocks (a ++ "\n" ++ b) = blocks a ++ blocks b := by
  have hseparate : Separate a b := h.elim separate_of_dangling_eq_nil separate_of_not_closes
  exact ⟨hseparate.headings_eq, hseparate.blocks_eq⟩

/-- Two documents in either order. In the first a fence of four backticks dangles above a block; the
second has neither fences nor openers. -/
theorem headings_blocks_append_either_order :
    let a := "## A\n````sh\n## B\n```md\n## C\n```"
    let b := "``\r\n## D  \n~~~"
    (headings (a ++ "\n" ++ b) = headings a ++ headings b ∧
      blocks (a ++ "\n" ++ b) = blocks a ++ blocks b) ∧
    headings (b ++ "\n" ++ a) = headings b ++ headings a ∧
      blocks (b ++ "\n" ++ a) = blocks b ++ blocks a := by
  intro a b
  have hcloses : ∀ line ∈ Text.lines b.toList, ¬ Closes 3 line := by decide
  have hdangling : dangling b = [] := by decide
  exact ⟨headings_blocks_append a b (.inr hcloses), headings_blocks_append b a (.inl hdangling)⟩

/-- A line of the second document closes a fence of the first, which hides a heading. -/
example :
    headings "```\n## A" = ["## A"] ∧ headings ("```\n## A" ++ "\n" ++ "```\n## B") = ["## B"] := by
  decide

end OutlineLint.Outline

import OutlineLint.Proofs.Outline.Classification
import OutlineLint.Proofs.Text.Lines

/-!
# Replacing the interior of a block

The lines of a block can be exchanged for any others that do not close it, without an effect on the
headings or on the other blocks (`headings_blocks_replaceBetween`). What might go wrong is that a
new line closes a dangling opener further up. Such an opener has more backticks than the opener of
the block, which would close it otherwise, so that line would have closed the block itself.
-/

namespace OutlineLint.Outline

/-! ### Blocks among classified lines -/

/-- The lines `i` to `j` are a block. -/
structure BlockAt (parts : List Line) (i j : Nat) : Prop where
  lt : i < j
  opener : parts[i]? = some .opener
  closer : parts[j]? = some .closer
  body : ∀ k, i < k → k < j → ∃ content, parts[k]? = some (.body content)

/-- Where an opener is, a block starts. -/
lemma exists_block_of_opener {pieces : List Piece} {i : Nat}
    (h : (partsOf pieces)[i]? = some .opener) :
    ∃ ps opener interior closer qs, pieces = ps ++ .block opener interior closer :: qs ∧
      (linesOf ps).length = i := by
  obtain ⟨ps, piece, qs, k, rfl, hk, hindex⟩ := exists_piece_of_getElem? h
  match piece with
  | .text line =>
    have hmem := List.mem_of_getElem? hk
    simp at hmem
  | .block opener interior closer =>
    cases k with
    | zero => exact ⟨ps, opener, interior, closer, qs, rfl, hindex⟩
    | succ k =>
      have hmem := List.mem_of_getElem? (by simpa using hk)
      simp at hmem

/-- The block that starts at an opener ends after its interior. -/
lemma BlockAt.eq_of_append {ps qs : List Piece} {opener closer : List Char}
    {interior : List (List Char)} {j : Nat}
    (h : BlockAt (partsOf (ps ++ .block opener interior closer :: qs)) (linesOf ps).length j) :
    j = (linesOf ps).length + interior.length + 1 := by
  have hget (k : Nat) : (partsOf (ps ++ .block opener interior closer :: qs))[
      (linesOf ps).length + 1 + k]? = (interior.map .body ++ .closer :: partsOf qs)[k]? := by
    rw [partsOf_append, ← length_partsOf, Nat.add_assoc,
      List.getElem?_append_right (Nat.le_add_right _ _), Nat.add_sub_cancel_left]
    simp [Nat.add_comm 1]
  obtain ⟨k, rfl⟩ := Nat.exists_eq_add_of_lt h.lt
  rcases Nat.lt_trichotomy k interior.length with hk | hk | hk
  · have hcloser := h.closer
    rw [Nat.add_right_comm, hget, List.getElem?_append_left (by simpa using hk)] at hcloser
    simp at hcloser
  · rw [hk]
  · obtain ⟨content, hcontent⟩ := h.body ((linesOf ps).length + 1 + interior.length)
      (by omega) (by omega)
    rw [hget] at hcontent
    simp at hcontent

/-- There are as many closers as blocks. -/
lemma count_closer_partsOf (pieces : List Piece) :
    (partsOf pieces).count .closer = (interiorsOf pieces).length := by
  induction pieces with
  | nil => rfl
  | cons piece pieces ih =>
    match piece with
    | .text line => simp [ih]
    | .block opener interior closer =>
      have hinterior : (interior.map Line.body).count .closer = 0 := by
        simp [List.count_eq_zero]
      simp [hinterior, ih, Nat.add_comm]

/-! ### Another interior -/

/-- A block takes any lines that do not close it. -/
lemma Parses.replace_interior {lines interior ls : List (List Char)} {ps qs : List Piece}
    {run : Nat} {opener closer : List Char}
    (h : Parses lines (ps ++ .block opener interior closer :: qs))
    (hopener : Opens run opener) (hls : ∀ line ∈ ls, ¬ Closes run line) :
    Parses (linesOf ps ++ opener :: (ls ++ closer :: linesOf qs))
      (ps ++ .block opener ls closer :: qs) := by
  have hblock := h.of_append
  rw [linesOf_cons, Piece.lines_block] at hblock
  generalize hold : opener :: (interior ++ [closer]) ++ linesOf qs = old at hblock
  cases hblock with
  | block hopener' hinterior hcloser hrest =>
    obtain rfl := hopener.unique hopener'
    rw [hrest.linesOf_eq]
    refine h.append_congr (.block hopener hls hcloser hrest) fun n hn hunclosed line hline => ?_
    rw [linesOf_cons, Piece.lines_block, hrest.linesOf_eq] at hunclosed
    rcases List.mem_cons.mp hline with rfl | hline
    · exact hunclosed _ (by simp)
    rcases List.mem_append.mp hline with hline | hline
    · -- `n` is more than `run`, for the opener of the block does not close a fence of `n` backticks
      intro hcloses
      have hrun : ¬ n ≤ run := fun hle => hunclosed opener (by simp) (hopener.closes.of_le hle)
      exact hls line hline (hcloses.of_le (Nat.le_of_not_le hrun))
    · exact hunclosed line (by simpa using Or.inr (Or.inr (List.mem_cons.mp hline)))

/-- Replacing the lines between the opener and the closer of a block, by any lines that do not start
with the backticks of the opener, changes no heading and only the one block. -/
theorem headings_blocks_replaceBetween (text : String) {i j run : Nat} {opener : List Char}
    {ls : List (List Char)} (hblock : BlockAt (classify text.toList) i j)
    (hopener : (Text.lines text.toList)[i]? = some opener) (hrun : Opens run opener)
    (hls : ∀ line ∈ ls, '\n' ∉ line ∧ '\r' ∉ line ∧ ¬ Closes run line) :
    let edited := String.ofList (Text.replaceBetween text.toList i j ls)
    let index := ((classify text.toList).take i).count .closer
    headings edited = headings text ∧ index < (blocks text).length ∧
      blocks edited = (blocks text).set index (bodyText ls) := by
  obtain ⟨pieces, hpieces⟩ := exists_parses (Text.lines text.toList)
  have hclassify : classify text.toList = partsOf pieces := classifyLines_eq_of_parses hpieces
  rw [hclassify] at hblock ⊢
  obtain ⟨ps, opener', interior, closer, qs, rfl, rfl⟩ := exists_block_of_opener hblock.opener
  obtain rfl := hblock.eq_of_append
  have hlines : Text.lines text.toList =
      linesOf ps ++ opener' :: (interior ++ closer :: linesOf qs) := by
    simp [← hpieces.linesOf_eq]
  obtain rfl : opener' = opener := by simpa [hlines] using hopener
  have hedited : Text.lines (Text.replaceBetween text.toList (linesOf ps).length
      ((linesOf ps).length + interior.length + 1) ls) =
        linesOf ps ++ opener' :: (ls ++ closer :: linesOf qs) := by
    rw [Text.lines_replaceBetween _ _ _ fun l hl => ⟨(hls l hl).1, (hls l hl).2.1⟩, hlines,
      Nat.add_assoc, List.drop_length_add_append, List.take_length_add_append]
    simp
  have hparses := hpieces.replace_interior hrun fun l hl => (hls l hl).2.2
  rw [← hedited, ← String.toList_ofList (l := Text.replaceBetween _ _ _ _)] at hparses
  have hindex : ((partsOf (ps ++ .block opener' interior closer :: qs)).take
      (linesOf ps).length).count .closer = (interiorsOf ps).length := by
    rw [partsOf_append, List.take_left' (length_partsOf ps), count_closer_partsOf]
  refine ⟨?_, ?_, ?_⟩
  · rw [headings_eq_of_parses hparses, headings_eq_of_parses hpieces]
    simp
  · rw [hindex, blocks_eq_of_parses hpieces]
    simp
  · rw [hindex, blocks_eq_of_parses hparses, blocks_eq_of_parses hpieces]
    simp

/-- The four backticks above the block stay a line of text. -/
theorem headings_blocks_replaceBetween_dangling :
    let text := "````sh\n## A\n```md\n## B\n```\n## C"
    let edited := String.ofList (Text.replaceBetween text.toList 2 4 ["``".toList, "## D".toList])
    headings edited = headings text ∧ 0 < (blocks text).length ∧
      blocks edited = (blocks text).set 0 "``\n## D" := by
  intro text edited
  have hblock : BlockAt (classify text.toList) 2 4 := by
    refine ⟨by decide, by decide, by decide, fun k hk hk' => ⟨"## B".toList, ?_⟩⟩
    obtain rfl : k = 3 := by omega
    decide
  have hopener : (Text.lines text.toList)[2]? = some "```md".toList := by decide
  have hrun : Opens 3 "```md".toList := by decide
  have hls : ∀ line ∈ ["``".toList, "## D".toList],
      '\n' ∉ line ∧ '\r' ∉ line ∧ ¬ Closes 3 line := by decide
  have hindex : ((classify text.toList).take 2).count .closer = 0 := by decide
  have h := headings_blocks_replaceBetween text hblock hopener hrun hls
  rw [hindex] at h
  exact h

end OutlineLint.Outline

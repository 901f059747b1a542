import OutlineLint.Proofs.Outline.Grammar

/-!
# Scanning finds the pieces of a document

One scan finds settled pieces, either up to the end of the document or up to an opener that no later
line closes (`Scanned`). A step therefore adds settled pieces to those found before, and perhaps
that opener as a line of text (`Progress.StepRule`); repeating it reads the document as the grammar
of fenced blocks does (`classifyLines_eq_of_parses`). The blocks of a document are the interiors of
its pieces, its headings are among its lines of text.
-/

namespace OutlineLint.Outline

/-! ### One scan -/

/-- What a scan from the line `index` on, outside of fences, makes of lines. -/
inductive Scanned (index : Nat) : List (List Char) → List Line × Option OpenFence → Prop
  | closed (pieces : List Piece) (hpieces : ∀ p ∈ pieces, p.Settled) :
      Scanned index (linesOf pieces) (partsOf pieces, none)
  | dangling (pieces : List Piece) {run : Nat} {opener : List Char} {rest : List (List Char)}
      (hpieces : ∀ p ∈ pieces, p.Settled) (hopener : Opens run opener)
      (hrest : ∀ line ∈ rest, ¬ Closes run line) :
      Scanned index (linesOf pieces ++ opener :: rest)
        (partsOf pieces ++ .opener :: rest.map .body,
          some ⟨index + (linesOf pieces).length, run⟩)

/-- Inside of a fence, lines are a body as long as none of them closes it. -/
lemma scan_append_of_not_closes (index : Nat) (fence : OpenFence) {interior : List (List Char)}
    (rest : List (List Char)) (hinterior : ∀ line ∈ interior, ¬ Closes fence.run line) :
    scan index (some fence) (interior ++ rest) =
      (interior.map .body ++ (scan (index + interior.length) (some fence) rest).1,
        (scan (index + interior.length) (some fence) rest).2) := by
  induction interior generalizing index with
  | nil => rfl
  | cons line interior ih =>
    have hline := closes_eq_false_iff.mpr (hinterior line List.mem_cons_self)
    have htail := ih (index + 1) fun l hl => hinterior l (List.mem_cons_of_mem _ hl)
    simp [scan, readLine, hline, htail, Nat.add_assoc, Nat.add_comm 1]

/-- Either no line closes a fence, or there is a first one. -/
lemma exists_first_closes (run : Nat) (lines : List (List Char)) :
    (∀ line ∈ lines, ¬ Closes run line) ∨
      ∃ interior closer rest, lines = interior ++ closer :: rest ∧
        (∀ line ∈ interior, ¬ Closes run line) ∧ Closes run closer := by
  induction lines with
  | nil => exact .inl (by simp)
  | cons line lines ih =>
    by_cases hline : Closes run line
    · exact .inr ⟨[], line, lines, rfl, by simp, hline⟩
    · rcases ih with h | ⟨interior, closer, rest, rfl, hinterior, hcloser⟩
      · exact .inl (List.forall_mem_cons.mpr ⟨hline, h⟩)
      · exact .inr ⟨line :: interior, closer, rest, rfl,
          List.forall_mem_cons.mpr ⟨hline, hinterior⟩, hcloser⟩

/-- A settled piece is found before what the rest of the scan finds. -/
lemma Scanned.cons (index : Nat) (piece : Piece) {rest : List (List Char)}
    {found : List Line × Option OpenFence} (hpiece : piece.Settled)
    (h : Scanned (index + piece.lines.length) rest found) :
    Scanned index (piece.lines ++ rest) (piece.parts ++ found.1, found.2) := by
  cases h with
  | closed pieces hpieces =>
    simpa using Scanned.closed (piece :: pieces)
      (List.forall_mem_cons.mpr ⟨hpiece, hpieces⟩)
  | dangling pieces hpieces hopener hrest =>
    simpa [Nat.add_assoc] using Scanned.dangling (piece :: pieces)
      (List.forall_mem_cons.mpr ⟨hpiece, hpieces⟩) hopener hrest

theorem scanned_scan (index : Nat) (lines : List (List Char)) :
    Scanned index lines (scan index none lines) := by
  match lines with
  | [] => exact .closed [] (by simp)
  | line :: lines =>
    cases hrun : fenceRun? line with
    | none =>
      have h := Scanned.cons index (.text line)
        (fenceRun?_eq_none_iff.mp hrun) (scanned_scan _ lines)
      simpa [scan, readLine, hrun] using h
    | some run =>
      have hopener := fenceRun?_eq_some_iff.mp hrun
      rcases exists_first_closes run lines with
        h | ⟨interior, closer, rest, rfl, hinterior, hcloser⟩
      · have hscan := scan_append_of_not_closes (index + 1) ⟨index, run⟩ [] h
        rw [List.append_nil] at hscan
        simpa [scan, readLine, hrun, hscan] using
          Scanned.dangling [] (by simp) hopener h
      · have hscan := scan_append_of_not_closes (index + 1) ⟨index, run⟩ (closer :: rest)
          hinterior
        have h := Scanned.cons index (.block line interior closer)
          ⟨run, hopener, hinterior, hcloser⟩ (scanned_scan _ rest)
        simpa [scan, readLine, hrun, hscan, closes_eq_true_iff.mpr hcloser, Nat.add_assoc,
          Nat.add_comm 1] using h
termination_by lines.length

/-! ### Scanning again -/

/-- What a step adds to the lines classified so far: settled pieces up to the end, or settled pieces
and an opener that no later line closes. -/
inductive Progress.StepRule (lines : List (List Char)) (progress : Progress) : Step → Prop
  | done {pieces : List Piece} (hlines : lines.drop progress.start = linesOf pieces)
      (hpieces : ∀ p ∈ pieces, p.Settled) :
      StepRule lines progress (.done (progress.settled ++ partsOf pieces))
  | again {pieces : List Piece} {run : Nat} {opener : List Char} {rest : List (List Char)}
      (hlines : lines.drop progress.start = linesOf pieces ++ opener :: rest)
      (hpieces : ∀ p ∈ pieces, p.Settled) (hopener : Opens run opener)
      (hrest : ∀ line ∈ rest, ¬ Closes run line) :
      StepRule lines progress (.again
        ⟨progress.settled ++ partsOf pieces ++ [.text opener],
          progress.start + (linesOf pieces).length + 1⟩)

/-- The step takes its effect from one scan if every line before the start is classified. -/
lemma Progress.StepRule.of_step (lines : List (List Char)) {progress : Progress}
    (haligned : progress.settled.length = progress.start) :
    StepRule lines progress (progress.step lines) := by
  have hscan := scanned_scan 0 (lines.drop progress.start)
  rw [Progress.step]
  generalize hlines : lines.drop progress.start = tail at hscan
  cases hfound : scan 0 none tail with
  | mk parts last =>
    rw [hfound] at hscan
    cases hscan with
    | closed pieces hpieces => exact .done hlines hpieces
    | @dangling pieces _ opener _ hpieces hopener hrest =>
      have hget : lines[progress.start + (linesOf pieces).length]? = some opener := by
        rw [← List.getElem?_drop, hlines]
        simp
      have htake (parts : List Line) : (progress.settled ++ (partsOf pieces ++ parts)).take
          (progress.start + (linesOf pieces).length) = progress.settled ++ partsOf pieces := by
        rw [← List.append_assoc]
        exact List.take_left' (by rw [List.length_append, haligned, length_partsOf])
      simpa [hget, htake] using StepRule.again hlines hpieces hopener hrest

/-- As many steps as there are lines left, and one more, read the lines from the start on. -/
lemma classifyFrom_eq (lines : List (List Char)) (steps : Nat) (progress : Progress)
    (haligned : progress.settled.length = progress.start)
    (hsteps : (lines.drop progress.start).length < steps) :
    ∃ pieces, Parses (lines.drop progress.start) pieces ∧
      classifyFrom lines steps progress = progress.settled ++ partsOf pieces := by
  induction steps generalizing progress with
  | zero => exact absurd hsteps (Nat.not_lt_zero _)
  | succ steps ih =>
    rw [classifyFrom]
    generalize hstep : progress.step lines = step
    have hrule := hstep ▸ Progress.StepRule.of_step lines haligned
    cases hrule with
    | @done pieces hlines hpieces =>
      refine ⟨pieces, ?_, rfl⟩
      simpa [hlines] using Parses.settled_append hpieces .nil
    | @again pieces run opener rest hlines hpieces hopener hrest =>
      have hdrop : lines.drop (progress.start + (linesOf pieces).length + 1) = rest := by
        rw [Nat.add_assoc, ← List.drop_drop, hlines]
        simp
      have hlt : rest.length < steps := by
        rw [hlines] at hsteps
        simp at hsteps
        omega
      -- the opener is a piece by itself, the first of those that the next steps read
      obtain ⟨qs, hqs, hclassify⟩ := ih
        ⟨progress.settled ++ partsOf pieces ++ [.text opener],
          progress.start + (linesOf pieces).length + 1⟩
        (by simp [haligned, Nat.add_assoc]) (hdrop ▸ hlt)
      rw [hdrop] at hqs
      refine ⟨pieces ++ .text opener :: qs, ?_, hclassify.trans (by simp)⟩
      have hunclosed : ∀ n, Opens n opener → ∀ later ∈ rest, ¬ Closes n later :=
        fun n hn => hn.unique hopener ▸ hrest
      exact hlines ▸ Parses.settled_append hpieces (.text hunclosed hqs)

/-- Scanning gives the parts of the pieces that the document is made of. -/
theorem classifyLines_eq_of_parses {lines : List (List Char)} {pieces : List Piece}
    (h : Parses lines pieces) : classifyLines lines = partsOf pieces := by
  obtain ⟨qs, hqs, hclassify⟩ := classifyFrom_eq lines (lines.length + 1) .initial rfl
    (Nat.lt_succ_self _)
  rw [classifyLines, h.unique hqs]
  exact hclassify

/-- Every document can be read. -/
theorem exists_parses (lines : List (List Char)) : ∃ pieces, Parses lines pieces := by
  obtain ⟨pieces, hpieces, -⟩ := classifyFrom_eq lines (lines.length + 1) .initial rfl
    (Nat.lt_succ_self _)
  exact ⟨pieces, hpieces⟩

/-! ### Blocks and headings -/

lemma blocksFrom_body (current interior : List (List Char)) (rest : List Line) :
    blocksFrom current (interior.map .body ++ .closer :: rest) =
      Text.unlines (current.reverse ++ interior) ::
        blocksFrom (interior.reverse ++ current) rest := by
  induction interior generalizing current with
  | nil => simp [blocksFrom]
  | cons line interior ih => simp [blocksFrom, ih]

lemma blocksFrom_partsOf (current : List (List Char)) (pieces : List Piece) :
    blocksFrom current (partsOf pieces) =
      (interiorsOf pieces).map Text.unlines := by
  induction pieces generalizing current with
  | nil => rfl
  | cons piece pieces ih =>
    match piece with
    | .text line => simpa [blocksFrom] using ih current
    | .block opener interior closer => simp [blocksFrom, blocksFrom_body, ih]

/-- What can be read off lines of text only is read off the texts among the pieces. -/
lemma filterMap_partsOf {β : Type} {f : Line → Option β} (hopener : f .opener = none)
    (hbody : ∀ line, f (.body line) = none) (hcloser : f .closer = none) (pieces : List Piece) :
    (partsOf pieces).filterMap f = (textsOf pieces).filterMap fun line => f (.text line) := by
  induction pieces with
  | nil => rfl
  | cons piece pieces ih =>
    match piece with
    | .text line => simp [List.filterMap_cons, ih]
    | .block opener interior closer =>
      have hinterior : (interior.map Line.body).filterMap f = [] :=
        List.filterMap_eq_nil_iff.mpr (by simp [hbody])
      simp [hopener, hcloser, hinterior, ih]

/-- The text of the interior of a block. -/
def bodyText (interior : List (List Char)) : String := String.ofList (Text.unlines interior)

/-- The blocks of a document are the interiors of its pieces. -/
theorem blocks_eq_of_parses {text : String} {pieces : List Piece}
    (h : Parses (Text.lines text.toList) pieces) :
    blocks text = (interiorsOf pieces).map bodyText := by
  rw [blocks, classify, classifyLines_eq_of_parses h, blocksFrom_partsOf, List.map_map]
  rfl

/-- The headings of a document are among the lines of text that its pieces are. -/
theorem headings_eq_of_parses {text : String} {pieces : List Piece}
    (h : Parses (Text.lines text.toList) pieces) :
    headings text = (textsOf pieces).filterMap heading? := by
  rw [headings, classify, classifyLines_eq_of_parses h]
  exact filterMap_partsOf rfl (fun _ => rfl) rfl pieces

/-- An interior is written with a line feed between neighbouring lines. -/
lemma bodyText_eq_intercalate (interior : List (List Char)) :
    bodyText interior = "\n".intercalate (interior.map String.ofList) := by
  rw [← String.toList_inj, String.toList_intercalate, List.map_map]
  simp [bodyText, Text.unlines, Function.comp_def]

/-- Reading a line as a heading trims it and looks for the marker. -/
lemma filterMap_heading? (lines : List (List Char)) :
    lines.filterMap heading? =
      ((lines.map Text.trimEnd).filter fun line => headingMarker.isPrefixOf line).map
        String.ofList := by
  induction lines with
  | nil => rfl
  | cons line lines ih =>
    by_cases hline : headingMarker.isPrefixOf (Text.trimEnd line) = true <;>
      simp [heading?, hline, ih]

/-- The lines of a document, which are what its line feeds part, without a carriage return at their
end, make pieces in exactly one way: scanning, cutting back to a dangling opener and scanning again
classifies them as these pieces say. So the blocks are the interiors of the closed blocks, joined with
line feeds, and the headings are the trimmed lines of text that start with the marker, both in the
order of the document. -/
theorem classify_eq_partsOf_unique_reading (text : String) :
    let lines := (text.toList.splitOn '\n').map fun line =>
      if line.getLast? = some '\r' then line.dropLast else line
    ∃ pieces, (∀ ps, Parses lines ps ↔ ps = pieces) ∧
      classify text.toList = partsOf pieces ∧
      blocks text = ((interiorsOf pieces).map fun interior =>
        "\n".intercalate (interior.map String.ofList)) ∧
      headings text =
        (((textsOf pieces).map Text.trimEnd).filter fun line =>
          "## ".toList.isPrefixOf line).map String.ofList := by
  intro lines
  obtain ⟨pieces, hpieces⟩ := exists_parses (Text.lines text.toList)
  refine ⟨pieces, fun ps => ⟨fun hps => hps.unique hpieces, fun hps => hps ▸ hpieces⟩,
    classifyLines_eq_of_parses hpieces, ?_, ?_⟩
  · rw [blocks_eq_of_parses hpieces, funext bodyText_eq_intercalate]
  · rw [headings_eq_of_parses hpieces, filterMap_heading?]
    rfl

end OutlineLint.Outline

import OutlineLint.Proofs.Check.Errors
import OutlineLint.Proofs.Outline.Composition

/-!
# Copies of a template in agent documents

A copy of the template is a closed block that holds three of the required headings, and the first
one is reported, with the number of headings in it (`embeddedSkeleton?_eq_some_iff`). Where a
document has such a block, below lines that close each of their fences, it is one of its closed
blocks whatever stands above and below it (`mem_interiorsOf_of_everyFenceClosed`). So the copy is
found (`embeddedSkeleton?_finds_copies`).
-/

namespace OutlineLint

namespace Outline

variable {lines above body below : List (List Char)} {opener closer : List Char} {run : Nat}
  {pieces : List Piece}

/-! ### Blocks below closed fences -/

/-- Read by themselves, the lines close each fence that they open: no opener is left as text. -/
def EveryFenceClosed (lines : List (List Char)) : Prop :=
  ∃ pieces, Parses lines pieces ∧ ∀ line, .text line ∈ pieces → ∀ run, ¬ Opens run line

lemma everyFenceClosed_iff :
    EveryFenceClosed lines ↔ (classifyLines lines).filterMap Line.dangling? = [] := by
  have hfilter (pieces : List Piece) :
      (partsOf pieces).filterMap Line.dangling? = (textsOf pieces).filterMap fenceRun? :=
    filterMap_partsOf rfl (fun _ => rfl) rfl pieces
  have hiff (pieces : List Piece) : (textsOf pieces).filterMap fenceRun? = [] ↔
      ∀ line, .text line ∈ pieces → ∀ run, ¬ Opens run line := by
    simp only [List.filterMap_eq_nil_iff, mem_textsOf_iff, fenceRun?_eq_none_iff]
  constructor
  · rintro ⟨pieces, hpieces, hopens⟩
    rw [classifyLines_eq_of_parses hpieces, hfilter]
    exact (hiff pieces).mpr hopens
  · intro h
    obtain ⟨pieces, hpieces⟩ := exists_parses lines
    rw [classifyLines_eq_of_parses hpieces, hfilter] at h
    exact ⟨pieces, hpieces, (hiff pieces).mp h⟩

instance (lines : List (List Char)) : Decidable (EveryFenceClosed lines) :=
  decidable_of_iff _ everyFenceClosed_iff.symm

/-- Below lines that close their fences, lines between an opener and its closer are a block. -/
lemma mem_interiorsOf_of_everyFenceClosed (habove : EveryFenceClosed above)
    (hopener : Opens run opener) (hbody : ∀ line ∈ body, ¬ Closes run line)
    (hcloser : Closes run closer)
    (h : Parses (above ++ opener :: (body ++ closer :: below)) pieces) :
    body ∈ interiorsOf pieces := by
  obtain ⟨ps, hps, hunopened⟩ := habove
  obtain ⟨qs, hqs⟩ := exists_parses below
  have hblock : Parses (opener :: (body ++ closer :: below)) (.block opener body closer :: qs) :=
    .block hopener hbody hcloser hqs
  rw [← List.append_nil ps] at hps
  have hparses := hps.append_of_unclosed hblock fun line hline run hrun =>
    absurd hrun (hunopened line hline run)
  have habove : linesOf ps = above := by
    simpa using hps.linesOf_eq
  rw [habove] at hparses
  rw [h.unique hparses]
  simp

end Outline

namespace Check

open Outline (Parses Opens Closes interiorsOf bodyText EveryFenceClosed)

variable {agent : Path} {entry : Catalog.Entry} {schema : Schema} {text : String}
  {pieces : List Outline.Piece}

/-! ### The first copy -/

/-- The required headings that stand in a block. -/
def headingsIn (schema : Schema) (block : String) : List String :=
  schema.required.filter fun heading => Occurs heading block

lemma headingCount_eq_length (schema : Schema) (block : String) :
    headingCount schema block = (headingsIn schema block).length := by
  have hoccurs : ∀ heading ∈ schema.required,
      Text.contains block heading = decide (Occurs heading block) := by
    intro heading _
    rw [Bool.eq_iff_iff, contains_iff, decide_eq_true_iff]
  rw [headingCount, List.countP_eq_length_filter, headingsIn, List.filter_congr hoccurs]

/-- The first of the blocks that holds three required headings. -/
def IsFirstCopy (schema : Schema) (blocks : List String) (block : String) : Prop :=
  ∃ before after, blocks = before ++ block :: after ∧ HoldsThree schema block ∧
    ∀ earlier ∈ before, ¬ HoldsThree schema earlier

lemma find?_eq_some_iff_isFirstCopy {blocks : List String} {block : String} :
    blocks.find? (fun block => skeletonThreshold ≤ headingCount schema block) = some block ↔
      IsFirstCopy schema blocks block := by
  simp only [List.find?_eq_some_iff_append, IsFirstCopy, decide_eq_true_iff,
    Bool.not_eq_true', decide_eq_false_iff_not, three_le_headingCount_iff]
  constructor
  · rintro ⟨hblock, before, after, hblocks, hbefore⟩
    exact ⟨before, after, hblocks, hblock, hbefore⟩
  · rintro ⟨before, after, hblocks, hblock, hbefore⟩
    exact ⟨hblock, before, after, hblocks, hbefore⟩

/-- What is said of the first copy. -/
def copyMessage (agent : Path) (entry : Catalog.Entry) (count : Nat) : String :=
  "Agent " ++ agent.display ++ " appears to embed a " ++ entry.fileName ++ " skeleton (found " ++
    toString count ++ " headings in a fenced block)."

/-- The report is about the first copy. -/
lemma embeddedSkeleton?_eq_some_iff {d : Diagnostic} :
    embeddedSkeleton? agent text entry = some d ↔
      ∃ block, IsFirstCopy entry.schema (Outline.blocks text) block ∧
        d = ((Diagnostic.error .skeletonEmbedded
          (copyMessage agent entry (headingsIn entry.schema block).length)).atFile
            agent.display).withHint
              s!"reference {entry.template.display} instead of copying its headings" := by
  rw [embeddedSkeleton?, skeleton?, List.find?_map, Option.map_map, Option.map_eq_some_iff]
  refine exists_congr fun block => ?_
  rw [← find?_eq_some_iff_isFirstCopy, ← headingCount_eq_length, eq_comm (a := d)]
  rfl

lemma isSome_embeddedSkeleton?_iff :
    (embeddedSkeleton? agent text entry).isSome ↔
      ∃ block ∈ Outline.blocks text, HoldsThree entry.schema block := by
  have herror : HasError (embeddedSkeleton? agent text entry).toList ↔
      ∃ block ∈ Outline.blocks text, HoldsThree entry.schema block :=
    hasError_embeddedSkeleton?_iff
  rw [← herror, HasError.toList_iff, Option.isSome_iff_exists]
  refine exists_congr fun d => ⟨fun hd => ⟨hd, ?_⟩, fun hd => hd.1⟩
  obtain ⟨block, -, rfl⟩ := embeddedSkeleton?_eq_some_iff.mp hd
  rfl

lemma embeddedSkeleton?_congr {other : String} (h : Outline.blocks other = Outline.blocks text) :
    embeddedSkeleton? agent other entry = embeddedSkeleton? agent text entry := by
  rw [embeddedSkeleton?, embeddedSkeleton?, skeleton?, skeleton?, h]

/-- A document is reported if and only if one of its closed blocks holds three required headings,
and the message has the number of those in the first such block. It is enough that there is such a
block below lines that close their fences. The lines outside of closed blocks do not matter. -/
theorem embeddedSkeleton?_finds_copies (agent : Path) (entry : Catalog.Entry) (text : String) :
    ∃ pieces, Parses (Text.lines text.toList) pieces ∧
      ((embeddedSkeleton? agent text entry).isSome ↔
        ∃ interior ∈ interiorsOf pieces, HoldsThree entry.schema (bodyText interior)) ∧
      (∀ d, embeddedSkeleton? agent text entry = some d →
        ∃ block, IsFirstCopy entry.schema ((interiorsOf pieces).map bodyText) block ∧
          d.message = copyMessage agent entry (headingsIn entry.schema block).length) ∧
      (∀ above opener body closer below run,
        Text.lines text.toList = above ++ opener :: (body ++ closer :: below) →
        EveryFenceClosed above → Opens run opener → (∀ line ∈ body, ¬ Closes run line) →
        Closes run closer → HoldsThree entry.schema (bodyText body) →
        (embeddedSkeleton? agent text entry).isSome) ∧
      ∀ other others, Parses (Text.lines other.toList) others →
        (interiorsOf others).map bodyText = (interiorsOf pieces).map bodyText →
        embeddedSkeleton? agent other entry = embeddedSkeleton? agent text entry := by
  obtain ⟨pieces, hpieces⟩ := Outline.exists_parses (Text.lines text.toList)
  have hblocks := Outline.blocks_eq_of_parses hpieces
  have hfound : (embeddedSkeleton? agent text entry).isSome ↔
      ∃ interior ∈ interiorsOf pieces, HoldsThree entry.schema (bodyText interior) := by
    simp [isSome_embeddedSkeleton?_iff, hblocks]
  refine ⟨pieces, hpieces, hfound, ?_, ?_, ?_⟩
  · intro d hd
    obtain ⟨block, hfirst, rfl⟩ := embeddedSkeleton?_eq_some_iff.mp hd
    exact ⟨block, hblocks ▸ hfirst, rfl⟩
  · intro above opener body closer below run hlines habove hopener hbody hcloser hthree
    rw [hlines] at hpieces
    have hmem :=
      Outline.mem_interiorsOf_of_everyFenceClosed habove hopener hbody hcloser hpieces
    exact hfound.mpr ⟨body, hmem, hthree⟩
  · intro other others hothers hsame
    rw [← Outline.blocks_eq_of_parses hothers, ← hblocks] at hsame
    exact embeddedSkeleton?_congr hsame

/-- A block of three backticks stands between one of four, with an opener in it, and openers that
nothing closes. One of its lines holds two of the required headings. -/
theorem embeddedSkeleton?_finds_copies_among_others :
    let schema : Schema := ⟨["## A", "## A B", "## C"], [], by constructor <;> decide⟩
    let entry : Catalog.Entry :=
      ⟨⟨"plan", by decide⟩, "plan.md", .ofString "t.md", none, schema⟩
    let agent := Path.ofString "agents/x.md"
    let text := "````\n```sh\n````\n```md  \n## A B\r\n## C\n`````\n````\n```"
    let above := ["````".toList, "```sh".toList, "````".toList]
    let body := ["## A B".toList, "## C".toList]
    let below := ["````".toList, "```".toList]
    Text.lines text.toList = above ++ "```md  ".toList :: (body ++ "`````".toList :: below) ∧
      EveryFenceClosed above ∧ Opens 3 "```md  ".toList ∧ (∀ line ∈ body, ¬ Closes 3 line) ∧
      Closes 3 "`````".toList ∧ HoldsThree schema (bodyText body) ∧
      (embeddedSkeleton? agent text entry).isSome := by
  intro schema entry agent text above body below
  have hlines : Text.lines text.toList =
      above ++ "```md  ".toList :: (body ++ "`````".toList :: below) := by decide
  have habove : EveryFenceClosed above := by decide
  have hopener : Opens 3 "```md  ".toList := by decide
  have hbody : ∀ line ∈ body, ¬ Closes 3 line := by decide
  have hcloser : Closes 3 "`````".toList := by decide
  have hthree : HoldsThree schema (bodyText body) :=
    three_le_headingCount_iff.mp (by decide)
  obtain ⟨pieces, -, -, -, hcopy, -⟩ := embeddedSkeleton?_finds_copies agent entry text
  exact ⟨hlines, habove, hopener, hbody, hcloser, hthree,
    hcopy _ _ _ _ _ _ hlines habove hopener hbody hcloser hthree⟩

end Check

end OutlineLint

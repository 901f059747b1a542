import Mathlib.Data.List.TakeWhile
import Mathlib.Tactic.Lemma
import OutlineLint.Outline.Extract

/-!
# The grammar of fenced blocks

A document is a sequence of pieces: lines of ordinary text, and blocks with an opener and a closer.
`Parses` tells which pieces the lines of a document make, from left to right and without scanning
any line again: an opener takes the lines up to the first one that closes it; if no later line does,
it is ordinary text, as is every line that is no opener.

The pieces are unique (`Parses.unique`). A piece that is settled is read whatever comes after it
(`Parses.settled_append`); of the others, lines that would open a block, nothing matters but that no
later line closes them, so the end of a document can be exchanged (`Parses.append_congr`).
-/

namespace OutlineLint.Outline

/-! ### Fence lines -/

/-- The line is `run` backticks, at least three, with no backtick after them. -/
def Opens (run : Nat) (line : List Char) : Prop :=
  3 ≤ run ∧ ∃ info, line = List.replicate run backtick ++ info ∧ backtick ∉ info

/-- The line starts with `run` backticks. -/
def Closes (run : Nat) (line : List Char) : Prop :=
  List.replicate run backtick <+: line

instance (run : Nat) (line : List Char) : Decidable (Closes run line) :=
  inferInstanceAs (Decidable (List.replicate run backtick <+: line))

lemma closes_eq_true_iff {run : Nat} {line : List Char} :
    closes run line = true ↔ Closes run line :=
  List.isPrefixOf_iff_prefix

lemma closes_eq_false_iff {run : Nat} {line : List Char} :
    closes run line = false ↔ ¬ Closes run line := by
  rw [← closes_eq_true_iff, Bool.not_eq_true]

lemma leadingBackticks_replicate_append {run : Nat} {info : List Char} (h : backtick ∉ info) :
    leadingBackticks (List.replicate run backtick ++ info) = run := by
  have hinfo : info.takeWhile (· == backtick) = [] := by
    cases info with
    | nil => rfl
    | cons c rest =>
      have hc : c ≠ backtick := fun hc => h (hc ▸ List.mem_cons_self)
      simp [hc]
  rw [leadingBackticks, List.takeWhile_append_of_pos (by simp), hinfo]
  simp

lemma replicate_leadingBackticks_append (line : List Char) :
    List.replicate (leadingBackticks line) backtick ++ line.drop (leadingBackticks line) =
      line := by
  have hrun : line.takeWhile (· == backtick) =
      List.replicate (leadingBackticks line) backtick := by
    refine List.eq_replicate_of_mem fun c hc => ?_
    simpa using List.mem_takeWhile_imp hc
  rw [← hrun]
  exact List.prefix_iff_eq_append.mp (List.takeWhile_prefix _)

lemma fenceRun?_eq_some_iff {run : Nat} {line : List Char} :
    fenceRun? line = some run ↔ Opens run line := by
  constructor
  · intro h
    simp only [fenceRun?] at h
    split at h
    · contradiction
    · next hline =>
      obtain rfl := Option.some.inj h
      simp only [Bool.or_eq_true, decide_eq_true_eq, not_or, Nat.not_lt, List.contains_iff_mem]
        at hline
      exact ⟨hline.1, _, (replicate_leadingBackticks_append line).symm, hline.2⟩
  · rintro ⟨hrun, info, rfl, hinfo⟩
    have hdrop : (List.replicate run backtick ++ info).drop run = info :=
      List.drop_left' List.length_replicate
    simp [fenceRun?, leadingBackticks_replicate_append hinfo, hdrop, hinfo, hrun]

instance (run : Nat) (line : List Char) : Decidable (Opens run line) :=
  decidable_of_iff (fenceRun? line = some run) fenceRun?_eq_some_iff

lemma fenceRun?_eq_none_iff {line : List Char} :
    fenceRun? line = none ↔ ∀ run, ¬ Opens run line := by
  simp [Option.eq_none_iff_forall_ne_some, fenceRun?_eq_some_iff]

/-- An opener has one number of backticks. -/
lemma Opens.unique {m n : Nat} {line : List Char} (hm : Opens m line) (hn : Opens n line) :
    m = n := by
  rw [← fenceRun?_eq_some_iff] at hm hn
  exact Option.some.inj (hm.symm.trans hn)

lemma Opens.ne_zero {run : Nat} {line : List Char} (h : Opens run line) : run ≠ 0 :=
  Nat.ne_of_gt (Nat.lt_of_lt_of_le (by decide) h.1)

/-- An opener would close a fence of its own kind. -/
lemma Opens.closes {run : Nat} {line : List Char} (h : Opens run line) : Closes run line := by
  obtain ⟨-, info, rfl, -⟩ := h
  exact List.prefix_append _ _

/-- More backticks also close a fence of fewer. -/
lemma Closes.of_le {m n : Nat} {line : List Char} (h : Closes n line) (hmn : m ≤ n) :
    Closes m line := by
  refine List.IsPrefix.trans ⟨List.replicate (n - m) backtick, ?_⟩ h
  rw [List.replicate_append_replicate, Nat.add_sub_cancel' hmn]

/-! ### Pieces -/

/-- A line of ordinary text, or a block. -/
inductive Piece
  | text (line : List Char)
  | block (opener : List Char) (interior : List (List Char)) (closer : List Char)
  deriving DecidableEq, Repr

namespace Piece

/-- The lines that the piece is made of. -/
def lines : Piece → List (List Char)
  | text line => [line]
  | block opener interior closer => opener :: (interior ++ [closer])

/-- The parts that these lines play. -/
def parts : Piece → List Line
  | text line => [.text line]
  | block _ interior _ => .opener :: (interior.map .body ++ [.closer])

/-- The line of ordinary text. -/
def text? : Piece → Option (List Char)
  | text line => some line
  | block .. => none

/-- The lines between opener and closer. -/
def interior? : Piece → Option (List (List Char))
  | text _ => none
  | block _ interior _ => some interior

@[simp] lemma lines_text (line : List Char) : (text line).lines = [line] := rfl

@[simp] lemma lines_block (opener : List Char) (interior : List (List Char)) (closer : List Char) :
    (block opener interior closer).lines = opener :: (interior ++ [closer]) := rfl

@[simp] lemma parts_text (line : List Char) : (text line).parts = [.text line] := rfl

@[simp] lemma parts_block (opener : List Char) (interior : List (List Char)) (closer : List Char) :
    (block opener interior closer).parts = .opener :: (interior.map .body ++ [.closer]) := rfl

@[simp] lemma length_parts (piece : Piece) : piece.parts.length = piece.lines.length := by
  cases piece <;> simp

end Piece

/-- The lines of pieces, one piece after the other. -/
def linesOf (pieces : List Piece) : List (List Char) := pieces.flatMap Piece.lines

/-- The parts of the lines of pieces. -/
def partsOf (pieces : List Piece) : List Line := pieces.flatMap Piece.parts

@[simp] lemma linesOf_nil : linesOf [] = [] := rfl

@[simp] lemma linesOf_cons (p : Piece) (ps : List Piece) :
    linesOf (p :: ps) = p.lines ++ linesOf ps := List.flatMap_cons

@[simp] lemma linesOf_append (ps qs : List Piece) :
    linesOf (ps ++ qs) = linesOf ps ++ linesOf qs := List.flatMap_append

@[simp] lemma partsOf_nil : partsOf [] = [] := rfl

@[simp] lemma partsOf_cons (p : Piece) (ps : List Piece) :
    partsOf (p :: ps) = p.parts ++ partsOf ps := List.flatMap_cons

@[simp] lemma partsOf_append (ps qs : List Piece) :
    partsOf (ps ++ qs) = partsOf ps ++ partsOf qs := List.flatMap_append

@[simp] lemma length_partsOf (ps : List Piece) : (partsOf ps).length = (linesOf ps).length := by
  induction ps with
  | nil => rfl
  | cons p ps ih => simp [ih]

/-- Each part belongs to a piece. -/
lemma exists_piece_of_getElem? {pieces : List Piece} {i : Nat} {part : Line}
    (h : (partsOf pieces)[i]? = some part) :
    ∃ ps piece qs k, pieces = ps ++ piece :: qs ∧ piece.parts[k]? = some part ∧
      (linesOf ps).length + k = i := by
  induction pieces generalizing i with
  | nil => simp at h
  | cons piece pieces ih =>
    rw [partsOf_cons] at h
    by_cases hi : i < piece.parts.length
    · rw [List.getElem?_append_left hi] at h
      exact ⟨[], piece, pieces, i, rfl, h, Nat.zero_add i⟩
    · rw [List.getElem?_append_right (Nat.le_of_not_lt hi)] at h
      obtain ⟨ps, found, qs, k, rfl, hk, hindex⟩ := ih h
      refine ⟨piece :: ps, found, qs, k, rfl, hk, ?_⟩
      rw [Piece.length_parts] at hi hindex
      rw [linesOf_cons, List.length_append]
      omega

/-- A line of text is a piece by itself. -/
lemma exists_text_of_getElem? {pieces : List Piece} {i : Nat} {line : List Char}
    (h : (partsOf pieces)[i]? = some (.text line)) :
    ∃ ps qs, pieces = ps ++ .text line :: qs ∧ (linesOf ps).length = i := by
  obtain ⟨ps, piece, qs, k, rfl, hk, hindex⟩ := exists_piece_of_getElem? h
  match piece with
  | .text content =>
    obtain ⟨rfl, rfl⟩ : k = 0 ∧ content = line := by simpa [List.getElem?_singleton] using hk
    exact ⟨ps, qs, rfl, hindex⟩
  | .block opener interior closer =>
    have hmem := List.mem_of_getElem? hk
    simp at hmem

lemma mem_linesOf_of_text_mem {line : List Char} {pieces : List Piece} (h : .text line ∈ pieces) :
    line ∈ linesOf pieces :=
  List.mem_flatMap.mpr ⟨.text line, h, List.mem_singleton_self line⟩

lemma text_mem_partsOf_iff {line : List Char} {pieces : List Piece} :
    .text line ∈ partsOf pieces ↔ .text line ∈ pieces := by
  rw [partsOf, List.mem_flatMap]
  constructor
  · rintro ⟨piece, hpiece, hmem⟩
    match piece with
    | .text content =>
      obtain rfl : line = content := by simpa using hmem
      exact hpiece
    | .block opener interior closer => simp at hmem
  · exact fun h => ⟨.text line, h, List.mem_singleton_self _⟩

/-- The lines of ordinary text among pieces. -/
def textsOf (pieces : List Piece) : List (List Char) := pieces.filterMap Piece.text?

/-- The interiors of the blocks among pieces. -/
def interiorsOf (pieces : List Piece) : List (List (List Char)) := pieces.filterMap Piece.interior?

@[simp] lemma textsOf_nil : textsOf [] = [] := rfl

@[simp] lemma textsOf_cons_text (line : List Char) (ps : List Piece) :
    textsOf (.text line :: ps) = line :: textsOf ps := rfl

@[simp] lemma textsOf_cons_block (opener closer : List Char) (interior : List (List Char))
    (ps : List Piece) : textsOf (.block opener interior closer :: ps) = textsOf ps := rfl

@[simp] lemma textsOf_append (ps qs : List Piece) :
    textsOf (ps ++ qs) = textsOf ps ++ textsOf qs := List.filterMap_append

lemma mem_textsOf_iff {line : List Char} {pieces : List Piece} :
    line ∈ textsOf pieces ↔ .text line ∈ pieces := by
  rw [textsOf, List.mem_filterMap]
  constructor
  · rintro ⟨piece, hpiece, htext⟩
    cases piece with
    | text content => rwa [← Option.some.inj htext]
    | block opener interior closer => contradiction
  · exact fun h => ⟨_, h, rfl⟩

@[simp] lemma interiorsOf_nil : interiorsOf [] = [] := rfl

@[simp] lemma interiorsOf_cons_text (line : List Char) (ps : List Piece) :
    interiorsOf (.text line :: ps) = interiorsOf ps := rfl

@[simp] lemma interiorsOf_cons_block (opener closer : List Char) (interior : List (List Char))
    (ps : List Piece) :
    interiorsOf (.block opener interior closer :: ps) = interior :: interiorsOf ps := rfl

@[simp] lemma interiorsOf_append (ps qs : List Piece) :
    interiorsOf (ps ++ qs) = interiorsOf ps ++ interiorsOf qs := List.filterMap_append

/-! ### The reading of a document -/

/-- The pieces that the lines of a document make. -/
inductive Parses : List (List Char) → List Piece → Prop
  | nil : Parses [] []
  | text {line : List Char} {rest : List (List Char)} {pieces : List Piece}
      (hline : ∀ run, Opens run line → ∀ later ∈ rest, ¬ Closes run later)
      (hrest : Parses rest pieces) : Parses (line :: rest) (.text line :: pieces)
  | block {run : Nat} {opener closer : List Char} {interior rest : List (List Char)}
      {pieces : List Piece} (hopener : Opens run opener)
      (hinterior : ∀ line ∈ interior, ¬ Closes run line) (hcloser : Closes run closer)
      (hrest : Parses rest pieces) :
      Parses (opener :: (interior ++ closer :: rest)) (.block opener interior closer :: pieces)

/-- The first of the lines with a property is determined by the lines. -/
private lemma append_cons_inj_of_first {α : Type} {p : α → Prop} {xs xs' ys ys' : List α} {y y' : α}
    (h : xs ++ y :: ys = xs' ++ y' :: ys') (hxs : ∀ x ∈ xs, ¬ p x) (hy : p y)
    (hxs' : ∀ x ∈ xs', ¬ p x) (hy' : p y') : xs = xs' ∧ y = y' ∧ ys = ys' := by
  induction xs generalizing xs' with
  | nil =>
    cases xs' with
    | nil => simpa using h
    | cons x xs' =>
      obtain ⟨rfl, -⟩ := List.cons.inj h
      exact absurd hy (hxs' _ List.mem_cons_self)
  | cons x xs ih =>
    cases xs' with
    | nil =>
      obtain ⟨rfl, -⟩ := List.cons.inj h
      exact absurd hy' (hxs _ List.mem_cons_self)
    | cons x' xs' =>
      obtain ⟨rfl, htail⟩ := List.cons.inj h
      obtain ⟨rfl, rfl, rfl⟩ := ih htail (fun x hx => hxs x (List.mem_cons_of_mem _ hx))
        (fun x hx => hxs' x (List.mem_cons_of_mem _ hx))
      exact ⟨rfl, rfl, rfl⟩

/-- A document is read in one way only. -/
theorem Parses.unique {lines : List (List Char)} {ps qs : List Piece} (hp : Parses lines ps)
    (hq : Parses lines qs) : ps = qs := by
  induction hp generalizing qs with
  | nil => cases hq; rfl
  | text hline hrest ih =>
    cases hq with
    | text _ hrest' => rw [ih hrest']
    | block hopener _ hcloser _ => exact absurd hcloser (hline _ hopener _ (by simp))
  | @block run opener closer interior rest pieces hopener hinterior hcloser hrest ih =>
    generalize hlines : interior ++ closer :: rest = lines at hq
    cases hq with
    | text hline _ => exact absurd hcloser (hline _ hopener _ (by simp [← hlines]))
    | block hopener' hinterior' hcloser' hrest' =>
      obtain rfl := hopener.unique hopener'
      obtain ⟨rfl, rfl, rfl⟩ :=
        append_cons_inj_of_first hlines hinterior hcloser hinterior' hcloser'
      rw [ih hrest']

lemma Parses.linesOf_eq {lines : List (List Char)} {pieces : List Piece}
    (h : Parses lines pieces) : linesOf pieces = lines := by
  induction h with
  | nil => rfl
  | text _ _ ih => simp [ih]
  | block _ _ _ _ ih => simp [ih]

/-! ### Exchanging the end of a document -/

/-- The piece is read as it is, whatever comes after it. -/
def Piece.Settled : Piece → Prop
  | .text line => ∀ run, ¬ Opens run line
  | .block opener interior closer =>
    ∃ run, Opens run opener ∧ (∀ line ∈ interior, ¬ Closes run line) ∧ Closes run closer

lemma Parses.cons_of_settled {rest : List (List Char)} {piece : Piece} {pieces : List Piece}
    (hpiece : piece.Settled) (h : Parses rest pieces) :
    Parses (piece.lines ++ rest) (piece :: pieces) := by
  match piece with
  | .text line => exact .text (fun run hrun => absurd hrun (hpiece run)) h
  | .block opener interior closer =>
    obtain ⟨run, hopener, hinterior, hcloser⟩ := hpiece
    simpa using Parses.block hopener hinterior hcloser h

lemma Parses.settled_append {rest : List (List Char)} {ps qs : List Piece}
    (hps : ∀ p ∈ ps, p.Settled) (h : Parses rest qs) :
    Parses (linesOf ps ++ rest) (ps ++ qs) := by
  induction ps with
  | nil => exact h
  | cons p ps ih =>
    rw [linesOf_cons, List.append_assoc]
    exact .cons_of_settled (hps p List.mem_cons_self)
      (ih fun q hq => hps q (List.mem_cons_of_mem _ hq))

lemma Parses.of_append {lines : List (List Char)} {ps qs : List Piece}
    (h : Parses lines (ps ++ qs)) : Parses (linesOf qs) qs := by
  induction ps generalizing lines with
  | nil =>
    rw [List.nil_append] at h
    rwa [h.linesOf_eq]
  | cons p ps ih =>
    rw [List.cons_append] at h
    cases h with
    | text _ hrest => exact ih hrest
    | block _ _ _ hrest => exact ih hrest

/-- No later line closes a fence that a line of text would open. -/
lemma Parses.not_closes_of_text {lines : List (List Char)} {ps qs : List Piece}
    {opener : List Char} {run : Nat} (h : Parses lines (ps ++ .text opener :: qs))
    (hopener : Opens run opener) : ∀ line ∈ linesOf qs, ¬ Closes run line := by
  have htext := h.of_append
  rw [linesOf_cons, Piece.lines_text, List.singleton_append] at htext
  generalize linesOf qs = later at htext ⊢
  cases htext with
  | text hopens _ => exact hopens run hopener

/-- The pieces before some place stay if what comes after it is exchanged, unless a line after it
now closes one of the openers that nothing closed. -/
lemma Parses.append_of_unclosed {lines rest : List (List Char)} {ps qs rs : List Piece}
    (h : Parses lines (ps ++ qs)) (hrest : Parses rest rs)
    (hunclosed : ∀ opener, .text opener ∈ ps → ∀ run, Opens run opener →
      ∀ line ∈ rest, ¬ Closes run line) :
    Parses (linesOf ps ++ rest) (ps ++ rs) := by
  induction ps generalizing lines with
  | nil => exact hrest
  | cons p ps ih =>
    rw [List.cons_append] at h
    have htail (hpieces : Parses (linesOf (ps ++ qs)) (ps ++ qs)) :=
      ih hpieces fun opener hmem => hunclosed opener (List.mem_cons_of_mem _ hmem)
    cases h with
    | @text line lines _ hline hparses =>
      obtain rfl := hparses.linesOf_eq
      show Parses (line :: (linesOf ps ++ rest)) (.text line :: (ps ++ rs))
      -- the line may be an opener that nothing closes; nothing may close it now
      refine .text (fun run hrun later hlater => ?_) (htail hparses)
      rcases List.mem_append.mp hlater with hlater | hlater
      · exact hline run hrun later (by simp [hlater])
      · exact hunclosed line List.mem_cons_self run hrun later hlater
    | block hopener hinterior hcloser hparses =>
      obtain rfl := hparses.linesOf_eq
      simpa using Parses.block hopener hinterior hcloser (htail hparses)

/-- The pieces before some place stay if what comes after it is exchanged, unless a line after it
now closes a fence that no line after it closed. -/
lemma Parses.append_congr {lines rest : List (List Char)} {ps qs rs : List Piece}
    (h : Parses lines (ps ++ qs)) (hrest : Parses rest rs)
    (hclose : ∀ run, 3 ≤ run → (∀ line ∈ linesOf qs, ¬ Closes run line) →
      ∀ line ∈ rest, ¬ Closes run line) :
    Parses (linesOf ps ++ rest) (ps ++ rs) := by
  refine h.append_of_unclosed hrest fun opener hmem run hopener => hclose run hopener.1 ?_
  obtain ⟨before, after, rfl⟩ := List.append_of_mem hmem
  rw [List.append_assoc, List.cons_append] at h
  exact fun line hline => h.not_closes_of_text hopener line (by simp [hline])

end OutlineLint.Outline

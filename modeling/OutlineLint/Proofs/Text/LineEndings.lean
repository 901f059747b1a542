import OutlineLint.Proofs.Text.Lines
import OutlineLint.Text.Search

/-!
# Unified line endings

Unifying the line endings in two passes over the whole text amounts to one pass from left to right
(`unifyLineEndings_eq`), which leaves no carriage return. If every carriage return stands before a
line feed, the text has the same lines before and after (`lines_unified`). Whatever fits into a line
is then found in both texts or in neither (`contains_congr`), and what does not is found so in all
texts only if it does not show which line endings they have (`forall_infix_unified_iff`).
-/

namespace OutlineLint.Text

variable {cs front : List Char}

/-! ### A single pass -/

/-- The text with one line feed for each `\r\n`, each other `\r` and each other `\n`. -/
def unified : List Char → List Char
  | '\r' :: '\n' :: cs => '\n' :: unified cs
  | '\r' :: cs => '\n' :: unified cs
  | '\n' :: cs => '\n' :: unified cs
  | c :: cs => c :: unified cs
  | [] => []

lemma returnsToFeeds_joinReturnFeed (cs : List Char) :
    returnsToFeeds (joinReturnFeed cs) = unified cs := by
  fun_induction unified cs with
  | case1 cs ih => simpa [joinReturnFeed, returnsToFeeds] using ih
  | case2 cs hfeed ih =>
    -- the first pass keeps this `\r`, as in `\r\r\n`, and the second replaces it
    rw [joinReturnFeed]
    · simpa [returnsToFeeds] using ih
    · exact fun rest _ => hfeed rest
  | case3 cs ih => simpa [joinReturnFeed, returnsToFeeds] using ih
  | case4 c cs hpair hreturn hfeed ih =>
    have hkept : c ≠ '\r' := hreturn
    rw [joinReturnFeed]
    · simpa [returnsToFeeds, hkept] using ih
    · exact hpair
  | case5 => rfl

lemma unifyLineEndings_eq (s : String) :
    unifyLineEndings s = String.ofList (unified s.toList) := by
  rw [unifyLineEndings, returnsToFeeds_joinReturnFeed]

example : unified "a\r\r\nb\n\rc\r".toList = "a\n\nb\n\nc\n".toList := by decide

@[simp] lemma toList_unifyLineEndings (s : String) :
    (unifyLineEndings s).toList = unified s.toList := by
  rw [unifyLineEndings_eq, String.toList_ofList]

lemma return_not_mem_unified (cs : List Char) : '\r' ∉ unified cs := by
  fun_induction unified cs with
  | case1 cs ih => simpa using ih
  | case2 cs hfeed ih => simpa using ih
  | case3 cs ih => simpa using ih
  | case4 c cs hpair hreturn hfeed ih => simpa [ih] using fun h => hreturn h.symm
  | case5 => simp

/-- There is nothing to unify without carriage returns. -/
lemma unified_of_not_mem (h : '\r' ∉ cs) : unified cs = cs := by
  fun_induction unified cs with
  | case1 cs ih => simp at h
  | case2 cs hfeed ih => simp at h
  | case3 cs ih => rw [ih fun hmem => h (List.mem_cons_of_mem _ hmem)]
  | case4 c cs hpair hreturn hfeed ih => rw [ih fun hmem => h (List.mem_cons_of_mem _ hmem)]
  | case5 => rfl

lemma unified_append (hfront : '\r' ∉ front) (cs : List Char) :
    unified (front ++ cs) = front ++ unified cs := by
  induction front with
  | nil => rfl
  | cons c rest ih =>
    rw [List.mem_cons, not_or] at hfront
    have hcons : unified (c :: (rest ++ cs)) = c :: unified (rest ++ cs) := by
      by_cases hfeed : c = '\n'
      · rw [hfeed]
        rfl
      · rw [unified] <;> simp [Ne.symm hfront.1, hfeed]
    rw [List.cons_append, hcons, ih hfront.2, List.cons_append]

lemma unifyLineEndings_unifyLineEndings (s : String) :
    unifyLineEndings (unifyLineEndings s) = unifyLineEndings s := by
  rw [unifyLineEndings_eq (unifyLineEndings s), toList_unifyLineEndings,
    unified_of_not_mem (return_not_mem_unified _), unifyLineEndings_eq]

/-! ### Lines of texts with paired carriage returns -/

/-- Each carriage return stands right before a line feed. -/
def ReturnsPaired (cs : List Char) : Prop :=
  ∀ i (h : i < cs.length), cs[i] = '\r' → cs[i + 1]? = some '\n'

instance (cs : List Char) : Decidable (ReturnsPaired cs) :=
  inferInstanceAs (Decidable (∀ i (h : i < cs.length), cs[i] = '\r' → cs[i + 1]? = some '\n'))

lemma returnsPaired_iff : ReturnsPaired cs ↔ ∀ i, cs[i]? = some '\r' → cs[i + 1]? = some '\n' := by
  constructor
  · intro h i hi
    obtain ⟨hlt, hreturn⟩ := List.getElem?_eq_some_iff.mp hi
    exact h i hlt hreturn
  · intro h i hi hreturn
    exact h i (List.getElem?_eq_some_iff.mpr ⟨hi, hreturn⟩)

lemma returnsPaired_of_not_mem (h : '\r' ∉ cs) : ReturnsPaired cs :=
  returnsPaired_iff.mpr fun _ hi => absurd (List.mem_of_getElem? hi) h

lemma ReturnsPaired.tail {c : Char} (h : ReturnsPaired (c :: cs)) : ReturnsPaired cs := by
  intro i hi hreturn
  simpa using h (i + 1) (Nat.succ_lt_succ hi) hreturn

lemma ReturnsPaired.exists_eq_cons (h : ReturnsPaired ('\r' :: cs)) :
    ∃ rest, cs = '\n' :: rest := by
  have hfeed : cs[0]? = some '\n' := h 0 (Nat.succ_pos _) rfl
  cases cs with
  | nil => contradiction
  | cons c rest => exact ⟨rest, by rw [Option.some.inj hfeed]⟩

lemma ReturnsPaired.cons_return_feed (h : ReturnsPaired cs) : ReturnsPaired ('\r' :: '\n' :: cs) := by
  rw [returnsPaired_iff] at h ⊢
  rintro (_ | _ | i) hi
  · rfl
  · cases hi
  · exact h i hi

/-- A text without carriage returns may stand before such a text. -/
lemma ReturnsPaired.append (h : ReturnsPaired cs) (hfront : '\r' ∉ front) :
    ReturnsPaired (front ++ cs) := by
  induction front with
  | nil => exact h
  | cons c rest ih =>
    rw [List.mem_cons, not_or] at hfront
    rw [returnsPaired_iff]
    intro i hi
    cases i with
    | zero => exact absurd (Option.some.inj hi).symm hfront.1
    | succ i => exact returnsPaired_iff.mp (ih hfront.2) i hi

lemma dropReturn_cons {c : Char} (hc : c ≠ '\r') (line : List Char) :
    dropReturn (c :: line) = c :: dropReturn line := by
  cases line with
  | nil => simp [dropReturn, hc]
  | cons d line =>
    rw [dropReturn, dropReturn, List.getLast?_cons_cons]
    split <;> rfl

lemma lines_cons {c : Char} (hreturn : c ≠ '\r') (hfeed : c ≠ '\n') (cs : List Char) :
    lines (c :: cs) = (lines cs).modifyHead (c :: ·) := by
  rw [lines_eq_map_rawLines, rawLines, List.splitOn_cons_eq_if_modifyHead, if_neg (by simpa),
    lines_eq_map_rawLines, rawLines]
  cases cs.splitOn '\n' with
  | nil => rfl
  | cons line rest => simp [dropReturn_cons hreturn]

lemma lines_cons_feed (cs : List Char) : lines ('\n' :: cs) = [] :: lines cs :=
  lines_append_newline [] cs

lemma lines_cons_return_feed (cs : List Char) : lines ('\r' :: '\n' :: cs) = [] :: lines cs :=
  lines_append_newline ['\r'] cs

/-- Where no `\r` stands by itself, unifying the line endings and taking `\r` from the ends of lines
come to the same. -/
lemma lines_unified (h : ReturnsPaired cs) : lines (unified cs) = lines cs := by
  fun_induction unified cs with
  | case1 cs ih => rw [lines_cons_feed, lines_cons_return_feed, ih h.tail.tail]
  | case2 cs hfeed ih =>
    obtain ⟨rest, rfl⟩ := h.exists_eq_cons
    exact absurd rfl (hfeed rest)
  | case3 cs ih => rw [lines_cons_feed, lines_cons_feed, ih h.tail]
  | case4 c cs hpair hreturn hfeed ih =>
    rw [lines_cons hreturn hfeed, lines_cons hreturn hfeed, ih h.tail]
  | case5 => rfl

/-! ### Finding a text in a line -/

section

variable {part line : List Char}

/-- A beginning ends before a character that it does not have. -/
lemma prefix_of_prefix_append_cons (line : List Char) {c : Char} {rest : List Char} (hc : c ∉ part)
    (h : part <+: line ++ c :: rest) : part <+: line := by
  rcases Nat.lt_or_ge line.length part.length with hlt | hle
  · have hline : line ++ [c] <+: line ++ c :: rest := ⟨rest, by simp⟩
    have hpart : line ++ [c] <+: part :=
      List.prefix_of_prefix_length_le hline h (by simpa using Nat.succ_le_of_lt hlt)
    exact absurd (hpart.subset (by simp)) hc
  · exact List.prefix_of_prefix_length_le h (List.prefix_append _ _) hle

lemma infix_append_cons_iff {c : Char} {rest : List Char} (hc : c ∉ part) :
    part <:+: line ++ c :: rest ↔ part <:+: line ∨ part <:+: rest := by
  constructor
  · intro h
    induction line with
    | nil =>
      rcases List.infix_cons_iff.mp h with h | h
      · exact .inl (prefix_of_prefix_append_cons [] hc h).isInfix
      · exact .inr h
    | cons d line ih =>
      rcases List.infix_cons_iff.mp h with h | h
      · exact .inl (prefix_of_prefix_append_cons (d :: line) hc h).isInfix
      · exact (ih h).imp_left List.infix_cons
  · rintro (h | h)
    · exact h.trans (List.prefix_append _ _).isInfix
    · exact h.trans ((List.suffix_cons c rest).trans (List.suffix_append _ _)).isInfix

lemma infix_dropReturn_iff (hreturn : '\r' ∉ part) : part <:+: dropReturn line ↔ part <:+: line := by
  rw [dropReturn]
  split
  · next hlast =>
    obtain ⟨front, rfl⟩ := List.getLast?_eq_some_iff.mp hlast
    rw [List.dropLast_concat, infix_append_cons_iff hreturn]
    refine ⟨.inl, fun h => h.elim id fun hnil => ?_⟩
    exact List.eq_nil_of_infix_nil hnil ▸ List.nil_infix
  · rfl

lemma infix_unlines_iff {ls : List (List Char)} (hne : ls ≠ []) (hfeed : '\n' ∉ part) :
    part <:+: unlines ls ↔ ∃ line ∈ ls, part <:+: line := by
  induction ls with
  | nil => contradiction
  | cons l ls ih =>
    cases ls with
    | nil => simp [unlines]
    | cons l' ls =>
      have hunlines : unlines (l :: l' :: ls) = l ++ '\n' :: unlines (l' :: ls) := by
        simp [unlines]
      rw [hunlines, infix_append_cons_iff hfeed, ih (List.cons_ne_nil _ _)]
      simp

/-- A text without line breaks stands in another one if and only if it stands in a line of it. -/
lemma infix_iff_exists_line (h : Unbroken part) :
    part <:+: cs ↔ ∃ line ∈ lines cs, part <:+: line := by
  have hne : rawLines cs ≠ [] := List.splitOn_ne_nil _ _
  calc part <:+: cs
      ↔ ∃ raw ∈ rawLines cs, part <:+: raw := by
        rw [← infix_unlines_iff hne h.1, unlines_rawLines]
    _ ↔ ∃ raw ∈ rawLines cs, part <:+: dropReturn raw := by simp only [infix_dropReturn_iff h.2]
    _ ↔ ∃ line ∈ lines cs, part <:+: line := by simp [lines_eq_map_rawLines]

end

/-- What is within one line is found by the lines. -/
lemma contains_congr {s t part : String} (hlines : lines s.toList = lines t.toList)
    (hpart : Unbroken part.toList) : contains s part = contains t part := by
  rw [Bool.eq_iff_iff, contains, contains, occursIn_iff, occursIn_iff,
    infix_iff_exists_line hpart, infix_iff_exists_line hpart, hlines]

/-! ### Parts that show the line endings -/

section

variable {part : List Char}

/-- The part can stand in a text with paired carriage returns, and shows which line endings the text
has: there is a carriage return in it, or a line feed after its start. -/
structure ShowsEndings (part : List Char) : Prop where
  feed_of_return : ∀ i c, part[i]? = some '\r' → part[i + 1]? = some c → c = '\n'
  shows : '\r' ∈ part ∨ '\n' ∈ part.tail

lemma Unbroken.not_showsEndings (h : Unbroken part) : ¬ ShowsEndings part := by
  rintro ⟨-, hreturn | hfeed⟩
  · exact h.2 hreturn
  · exact h.1 (List.mem_of_mem_tail hfeed)

/-- In a part of such a text too each carriage return stands before a line feed, but for one at its
end. -/
lemma ReturnsPaired.feed_of_infix (h : ReturnsPaired cs) (hpart : part <:+: cs) :
    ∀ i c, part[i]? = some '\r' → part[i + 1]? = some c → c = '\n' := by
  intro i c hreturn hnext
  obtain ⟨front, back, rfl⟩ := hpart
  have hplace (j : ℕ) {d : Char} (hj : part[j]? = some d) :
      (front ++ part ++ back)[front.length + j]? = some d := by
    obtain ⟨hlt, -⟩ := List.getElem?_eq_some_iff.mp hj
    rw [List.append_assoc, List.getElem?_append_right (Nat.le_add_right _ _),
      Nat.add_sub_cancel_left, List.getElem?_append_left hlt, hj]
  have hfeed := returnsPaired_iff.mp h _ (hplace i hreturn)
  exact Option.some.inj ((hplace (i + 1) hnext).symm.trans hfeed)

/-- Without line breaks a part is at the start of both texts or of neither. -/
lemma prefix_unified_iff (h : ReturnsPaired cs) (hpart : Unbroken part) :
    part <+: unified cs ↔ part <+: cs := by
  fun_induction unified cs generalizing part with
  | case1 cs ih | case3 cs ih =>
    cases part with
    | nil => simp
    | cons c part => simp [List.cons_prefix_cons, (unbroken_cons.mp hpart).1]
  | case2 cs hfeed ih =>
    obtain ⟨rest, rfl⟩ := h.exists_eq_cons
    exact absurd rfl (hfeed rest)
  | case4 d cs hpair hreturn hfeed ih =>
    cases part with
    | nil => simp
    | cons c part => rw [List.cons_prefix_cons, List.cons_prefix_cons,
        ih h.tail (unbroken_cons.mp hpart).2]
  | case5 => rfl

/-- A part that has no line break but perhaps a line feed at its start stands in both texts. -/
lemma cons_infix_unified_iff {c : Char} (h : ReturnsPaired cs) (hc : c ≠ '\r')
    (hpart : Unbroken part) : c :: part <:+: unified cs ↔ c :: part <:+: cs := by
  fun_induction unified cs with
  | case1 cs ih =>
    simp [List.infix_cons_iff, List.cons_prefix_cons, hc, ih h.tail.tail,
      prefix_unified_iff h.tail.tail hpart]
  | case2 cs hfeed ih =>
    obtain ⟨rest, rfl⟩ := h.exists_eq_cons
    exact absurd rfl (hfeed rest)
  | case3 cs ih | case4 d cs hpair hreturn hfeed ih =>
    rw [List.infix_cons_iff, List.infix_cons_iff, List.cons_prefix_cons, List.cons_prefix_cons,
      prefix_unified_iff h.tail hpart, ih h.tail]
  | case5 => rfl

/-- A part that does not show the line endings stands in both texts or in neither. -/
lemma infix_unified_iff (h : ReturnsPaired cs) (hpart : ¬ ShowsEndings part) :
    part <:+: unified cs ↔ part <:+: cs := by
  by_cases hfeed : ∀ i c, part[i]? = some '\r' → part[i + 1]? = some c → c = '\n'
  · have hshows : ¬ ('\r' ∈ part ∨ '\n' ∈ part.tail) := fun hshows => hpart ⟨hfeed, hshows⟩
    rw [not_or] at hshows
    cases part with
    | nil => simp
    | cons c rest =>
      obtain ⟨hreturn, hrest⟩ := hshows
      rw [List.mem_cons, not_or] at hreturn
      exact cons_infix_unified_iff h (Ne.symm hreturn.1) ⟨hrest, hreturn.2⟩
  · -- a carriage return before another character than a line feed is in neither text
    have hreturn : '\r' ∈ part := by
      by_contra hnone
      exact hfeed fun i c hi => absurd (List.mem_of_getElem? hi) hnone
    constructor
    · exact fun hstands => absurd (hstands.subset hreturn) (return_not_mem_unified cs)
    · exact fun hstands => absurd (h.feed_of_infix hstands) hfeed

/-- A carriage return at the end of a part may have a line feed after it. -/
lemma ShowsEndings.returnsPaired_concat (h : ShowsEndings part) :
    ReturnsPaired (part ++ ['\n']) := by
  rw [returnsPaired_iff]
  intro i hi
  have hlt : i < part.length := by
    by_contra hge
    rw [List.getElem?_append_right (Nat.not_lt.mp hge), List.getElem?_singleton] at hi
    split at hi <;> simp at hi
  rw [List.getElem?_append_left hlt] at hi
  rcases Nat.lt_or_ge (i + 1) part.length with hnext | hlast
  · rw [List.getElem?_append_left hnext, List.getElem?_eq_getElem hnext,
      h.feed_of_return i _ hi (List.getElem?_eq_getElem hnext)]
  · rw [List.getElem?_append_right hlast, Nat.le_antisymm hlast hlt]
    simp

/-- A part does not stand in what it becomes with a carriage return before one of its line feeds. -/
lemma not_infix_append_return {a : Char} {back : List Char}
    (hreturn : '\r' ∉ a :: front ++ '\n' :: back) :
    ¬ a :: front ++ '\n' :: back <:+: a :: front ++ '\r' :: '\n' :: back := by
  rintro ⟨before, after, h⟩
  cases before with
  | nil =>
    rw [List.nil_append, List.append_assoc, List.append_cancel_left_eq] at h
    cases h
  | cons c before =>
    have hlength := congrArg List.length h
    simp only [List.length_append, List.length_cons] at hlength
    obtain rfl : before = [] := List.length_eq_zero_iff.mp (by omega)
    obtain rfl : after = [] := List.length_eq_zero_iff.mp (by simp at hlength; omega)
    have htail : a :: front ++ '\n' :: back = front ++ '\r' :: '\n' :: back := by
      simpa using congrArg List.tail h
    exact hreturn (htail ▸ List.mem_append_right _ List.mem_cons_self)

/-- A part that shows the line endings stands in one text only of some two. -/
lemma ShowsEndings.exists_text (hpart : ShowsEndings part) :
    ∃ cs, ReturnsPaired cs ∧ ¬ (part <:+: unified cs ↔ part <:+: cs) := by
  by_cases hreturn : '\r' ∈ part
  · refine ⟨part ++ ['\n'], hpart.returnsPaired_concat, fun hiff => ?_⟩
    have hstands := hiff.mpr (List.prefix_append part ['\n']).isInfix
    exact return_not_mem_unified _ (hstands.subset hreturn)
  · obtain ⟨a, rest, rfl⟩ : ∃ a rest, part = a :: rest := by
      cases part with
      | nil => simpa using hpart.shows
      | cons a rest => exact ⟨a, rest, rfl⟩
    obtain ⟨front, back, hrest⟩ := List.append_of_mem (hpart.shows.resolve_left hreturn)
    obtain rfl : rest = front ++ '\n' :: back := hrest
    have hfront : '\r' ∉ a :: front := fun h => hreturn (List.mem_append_left ('\n' :: back) h)
    have hback : '\r' ∉ back := fun h =>
      hreturn (List.mem_append_right (a :: front) (List.mem_cons_of_mem _ h))
    have hunified : unified (a :: front ++ '\r' :: '\n' :: back) = a :: front ++ '\n' :: back := by
      rw [unified_append hfront, unified, unified_of_not_mem hback]
    refine ⟨a :: front ++ '\r' :: '\n' :: back,
      (returnsPaired_of_not_mem hback).cons_return_feed.append hfront, fun hiff => ?_⟩
    rw [hunified] at hiff
    exact not_infix_append_return hreturn (hiff.mp List.infix_rfl)

/-- A part is found in every text with paired carriage returns as it is found after unifying the line
endings, if and only if it does not show them. -/
lemma forall_infix_unified_iff :
    (∀ cs, ReturnsPaired cs → (part <:+: unified cs ↔ part <:+: cs)) ↔ ¬ ShowsEndings part := by
  constructor
  · intro h hpart
    obtain ⟨cs, hcs, hne⟩ := hpart.exists_text
    exact hne (h cs hcs)
  · exact fun hpart cs hcs => infix_unified_iff hcs hpart

end

end OutlineLint.Text

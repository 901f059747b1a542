import Mathlib.Data.List.Basic
import Mathlib.Tactic.Lemma

/-!
# Segments between separators

Segments that are written with a separator between neighbours are found in others written so only
where the separators match (`spans_iff_infix`): a single segment within one of the others, and more
of them across neighbours, of which the first ends, the last starts and the others are as they say.
-/

namespace OutlineLint.Text

variable {α : Type} {sep : α} {ts us : List (List α)}

/-! ### Cutting and writing -/

/-- What is cut at a separator has none left. -/
lemma not_mem_of_mem_splitOn [BEq α] [LawfulBEq α] {xs segment : List α}
    (h : segment ∈ xs.splitOn sep) : sep ∉ segment := by
  induction xs generalizing segment with
  | nil =>
    rw [List.splitOn_nil, List.mem_singleton] at h
    simp [h]
  | cons x xs ih =>
    obtain ⟨first, rest, hsplit⟩ := List.exists_cons_of_ne_nil (List.splitOn_ne_nil sep xs)
    rw [hsplit] at ih
    rw [List.splitOn_cons_eq_if_modifyHead, hsplit] at h
    split at h
    · rcases List.mem_cons.mp h with rfl | h
      · simp
      · exact ih h
    · next hx =>
      rcases List.mem_cons.mp h with rfl | h
      · have hfirst : sep ∉ first := ih List.mem_cons_self
        rw [beq_iff_eq] at hx
        simp [hfirst, Ne.symm hx]
      · exact ih (List.mem_cons_of_mem _ h)

/-- Two written lists of segments, one after the other, join the last segment of the first and the
first of the second. -/
lemma intercalate_append_intercalate (sep : α) (as bs : List (List α)) (a b : List α) :
    [sep].intercalate (as ++ [a]) ++ [sep].intercalate (b :: bs) =
      [sep].intercalate (as ++ (a ++ b) :: bs) := by
  induction as with
  | nil =>
    cases bs with
    | nil => simp
    | cons c bs => simp
  | cons x as ih =>
    have hleft : as ++ [a] ≠ [] := by simp
    have hright : as ++ (a ++ b) :: bs ≠ [] := by simp
    rw [List.cons_append, List.cons_append, List.intercalate_cons_of_ne_nil hleft,
      List.intercalate_cons_of_ne_nil hright, List.append_assoc, ih]

lemma intercalate_cons_ne_nil {t : List α} (h : t ≠ []) (ts : List (List α)) :
    [sep].intercalate (t :: ts) ≠ [] := by
  cases ts with
  | nil => simpa using h
  | cons t' ts => simp

lemma exists_splitOn_eq_concat [BEq α] (sep : α) (xs : List α) :
    ∃ before x, xs.splitOn sep = before ++ [x] := by
  rcases List.eq_nil_or_concat (xs.splitOn sep) with hnil | ⟨before, x, hsplit⟩
  · exact absurd hnil (List.splitOn_ne_nil sep xs)
  · exact ⟨before, x, hsplit.trans (List.concat_eq_append ..)⟩

/-- Cutting two lists, one after the other, only joins the last and the first segment. -/
lemma splitOn_append [BEq α] [LawfulBEq α] {xs ys x y : List α} {before after : List (List α)}
    (hx : xs.splitOn sep = before ++ [x]) (hy : ys.splitOn sep = y :: after) :
    (xs ++ ys).splitOn sep = before ++ (x ++ y) :: after := by
  have hxs (segment : List α) (h : segment ∈ before ++ [x]) : sep ∉ segment :=
    not_mem_of_mem_splitOn (hx ▸ h)
  have hys (segment : List α) (h : segment ∈ y :: after) : sep ∉ segment :=
    not_mem_of_mem_splitOn (hy ▸ h)
  have hsegments : ∀ segment ∈ before ++ (x ++ y) :: after, sep ∉ segment := by
    intro segment h
    rcases List.mem_append.mp h with h | h
    · exact hxs segment (List.mem_append_left _ h)
    · rcases List.mem_cons.mp h with rfl | h
      · rw [List.mem_append, not_or]
        exact ⟨hxs x (by simp), hys y List.mem_cons_self⟩
      · exact hys segment (List.mem_cons_of_mem _ h)
  calc (xs ++ ys).splitOn sep
      = ([sep].intercalate (xs.splitOn sep) ++ [sep].intercalate (ys.splitOn sep)).splitOn sep := by
        rw [List.intercalate_splitOn, List.intercalate_splitOn]
    _ = ([sep].intercalate (before ++ (x ++ y) :: after)).splitOn sep := by
        rw [hx, hy, intercalate_append_intercalate]
    _ = before ++ (x ++ y) :: after := List.splitOn_intercalate sep hsegments (by simp)

/-! ### Segments among others -/

/-- The first segments are among the others, but for what is left of the segments at both ends. -/
inductive Spans : List (List α) → List (List α) → Prop
  | nil {us : List (List α)} : Spans [] us
  | within {t u : List α} {us : List (List α)} (hu : u ∈ us) (h : t <:+: u) : Spans [t] us
  | across {first last u v : List α} {between before after : List (List α)} (hfirst : first <:+ u)
      (hlast : last <+: v) :
      Spans (first :: (between ++ [last])) (before ++ u :: (between ++ v :: after))

lemma infix_of_spans (h : Spans ts us) : [sep].intercalate ts <:+: [sep].intercalate us := by
  cases h with
  | nil => exact List.nil_infix
  | @within t _ _ hu h =>
    obtain ⟨before, after, rfl⟩ := List.append_of_mem hu
    obtain ⟨x, y, rfl⟩ := h
    refine ⟨[sep].intercalate (before ++ [x]), [sep].intercalate (y :: after), ?_⟩
    have hfront := intercalate_append_intercalate sep before [] x t
    rw [hfront, intercalate_append_intercalate]
  | @across first last _ _ between before after hfirst hlast =>
    obtain ⟨x, rfl⟩ := hfirst
    obtain ⟨y, rfl⟩ := hlast
    refine ⟨[sep].intercalate (before ++ [x]), [sep].intercalate (y :: after), ?_⟩
    have hfront := intercalate_append_intercalate sep before (between ++ [last]) x first
    have hback := intercalate_append_intercalate sep
      (before ++ (x ++ first) :: between) after last y
    rw [hfront]
    simpa using hback

section

variable [BEq α] [LawfulBEq α]

lemma spans_of_infix (hts : ∀ t ∈ ts, t ≠ [] ∧ sep ∉ t) (hus : ∀ u ∈ us, sep ∉ u)
    (h : [sep].intercalate ts <:+: [sep].intercalate us) : Spans ts us := by
  cases ts with
  | nil => exact .nil
  | cons first rest =>
    obtain ⟨hfirst, hrest⟩ := List.forall_mem_cons.mp hts
    have hne : us ≠ [] := by
      rintro rfl
      exact intercalate_cons_ne_nil hfirst.1 rest (List.eq_nil_of_infix_nil h)
    obtain ⟨xs, ys, hwhole⟩ := h
    obtain ⟨before, x, hx⟩ := exists_splitOn_eq_concat sep xs
    obtain ⟨y, after, hy⟩ := List.exists_cons_of_ne_nil (List.splitOn_ne_nil sep ys)
    have hsplit := List.splitOn_intercalate sep hus hne
    have hopening : (xs ++ first).splitOn sep = before ++ [x ++ first] :=
      splitOn_append hx (List.splitOn_eq_singleton hfirst.2)
    rw [← hwhole] at hsplit
    rcases List.eq_nil_or_concat rest with rfl | ⟨between, last, rfl⟩
    · rw [List.intercalate_singleton, splitOn_append hopening hy] at hsplit
      rw [← hsplit]
      exact .within (u := x ++ first ++ y) (by simp) ⟨x, y, rfl⟩
    · rw [List.concat_eq_append] at hwhole hrest hsplit ⊢
      have hclosing : ([sep].intercalate (between ++ [last]) ++ ys).splitOn sep =
          between ++ (last ++ y) :: after :=
        splitOn_append (List.splitOn_intercalate sep (fun t ht => (hrest t ht).2) (by simp)) hy
      have hcut : xs ++ [sep].intercalate (first :: (between ++ [last])) ++ ys =
          (xs ++ first) ++ sep :: ([sep].intercalate (between ++ [last]) ++ ys) := by
        rw [List.intercalate_cons_of_ne_nil (by simp)]
        simp
      rw [hcut, List.splitOn_append_cons_self, hopening, hclosing] at hsplit
      rw [← hsplit, List.append_assoc, List.singleton_append]
      exact .across (List.suffix_append _ _) (List.prefix_append _ _)

/-- Written segments are found in others if and only if the segments are among the others, but for
what is left at both ends. -/
lemma spans_iff_infix (hts : ∀ t ∈ ts, t ≠ [] ∧ sep ∉ t) (hus : ∀ u ∈ us, sep ∉ u) :
    Spans ts us ↔ [sep].intercalate ts <:+: [sep].intercalate us :=
  ⟨infix_of_spans, spans_of_infix hts hus⟩

end

end OutlineLint.Text

import Mathlib.Logic.Function.Basic
import OutlineLint.Proofs.Text.Lines
import OutlineLint.Report.Workflow

/-!
# Escaping values

Each of the three passes of `Report.escapeValue` goes over what the passes before have written. As
the percent sign comes first, no pass meets a character of its own there, and together they replace
each character of the value for itself (`Report.toList_escapeValue`). The texts that come out are
those without line breaks in which each percent sign begins a sequence (`Report.isEscaped_iff`), and
reading the sequences back gives the value (`Report.unescaped_escapeValue`).
-/

namespace OutlineLint

open Text (Unbroken)

namespace Report

variable {sequence cs ds : List Char}

/-! ### One pass -/

/-- What stands for a character in an escaped value. -/
def escapedChar (c : Char) : List Char :=
  if c = '%' then ['%', '2', '5']
  else if c = '\r' then ['%', '0', 'D']
  else if c = '\n' then ['%', '0', 'A']
  else [c]

/-- Each character is replaced for itself. -/
def escaped (cs : List Char) : List Char := cs.flatMap escapedChar

lemma escaped_cons (c : Char) (cs : List Char) : escaped (c :: cs) = escapedChar c ++ escaped cs :=
  List.flatMap_cons

lemma escaped_append (cs ds : List Char) : escaped (cs ++ ds) = escaped cs ++ escaped ds :=
  List.flatMap_append

lemma escapedChar_of_plain {c : Char} (hpercent : c ≠ '%') (hreturn : c ≠ '\r')
    (hfeed : c ≠ '\n') : escapedChar c = [c] := by
  rw [escapedChar, if_neg hpercent, if_neg hreturn, if_neg hfeed]

/-- The passes over what stands for one character. The percent sign that a pass writes is out of the
reach of the passes after it. -/
lemma substitute_escapedChar (c : Char) :
    Text.substitute '\n' ['%', '0', 'A'] (Text.substitute '\r' ['%', '0', 'D']
      (if c = '%' then ['%', '2', '5'] else [c])) = escapedChar c := by
  by_cases hpercent : c = '%'
  · subst hpercent
    decide
  by_cases hreturn : c = '\r'
  · subst hreturn
    decide
  simp [escapedChar, Text.substitute, hpercent, hreturn]

lemma toList_escapeValue (value : String) :
    (escapeValue value).toList = escaped value.toList := by
  have hpasses (c : Char) := substitute_escapedChar c
  simp only [Text.substitute] at hpasses
  simp only [escapeValue, escaped, Text.substitute, String.toList_ofList, List.flatMap_assoc,
    hpasses]

/-! ### Escaped texts -/

/-- The texts that stand for a character. -/
def sequences : List (List Char) := [['%', '2', '5'], ['%', '0', 'D'], ['%', '0', 'A']]

/-- A text without line breaks, in which each percent sign begins one of the sequences. -/
structure IsEscaped (cs : List Char) : Prop where
  unbroken : Unbroken cs
  begins : ∀ rest, '%' :: rest <:+ cs → ∃ sequence ∈ sequences, sequence <+: '%' :: rest

lemma isEscaped_nil : IsEscaped [] :=
  ⟨Text.unbroken_nil, fun _ h => absurd (List.suffix_nil.mp h) (List.cons_ne_nil _ _)⟩

lemma IsEscaped.of_suffix (h : IsEscaped cs) (hsuffix : ds <:+ cs) : IsEscaped ds where
  unbroken :=
    ⟨fun hd => h.unbroken.1 (hsuffix.subset hd), fun hd => h.unbroken.2 (hsuffix.subset hd)⟩
  begins rest hrest := h.begins rest (hrest.trans hsuffix)

lemma IsEscaped.cons {c : Char} (hpercent : c ≠ '%') (hreturn : c ≠ '\r') (hfeed : c ≠ '\n')
    (h : IsEscaped cs) : IsEscaped (c :: cs) where
  unbroken := Text.unbroken_cons.mpr ⟨⟨hfeed, hreturn⟩, h.unbroken⟩
  begins rest hrest := by
    rcases List.suffix_cons_iff.mp hrest with heq | hsuffix
    · exact absurd (List.head_eq_of_cons_eq heq).symm hpercent
    · exact h.begins rest hsuffix

lemma IsEscaped.sequence_append (hsequence : sequence ∈ sequences) (h : IsEscaped cs) :
    IsEscaped (sequence ++ cs) := by
  -- the two digits are plain, so only the percent sign at the front is left
  obtain ⟨x, y, rfl, hx, hy⟩ : ∃ x y, sequence = ['%', x, y] ∧
      (x ≠ '%' ∧ x ≠ '\r' ∧ x ≠ '\n') ∧ (y ≠ '%' ∧ y ≠ '\r' ∧ y ≠ '\n') := by
    simp only [sequences, List.mem_cons, List.not_mem_nil, or_false] at hsequence
    rcases hsequence with rfl | rfl | rfl
    all_goals exact ⟨_, _, rfl, by decide, by decide⟩
  have hdigits : IsEscaped (x :: y :: cs) :=
    .cons hx.1 hx.2.1 hx.2.2 (.cons hy.1 hy.2.1 hy.2.2 h)
  refine ⟨Text.unbroken_cons.mpr ⟨by decide, hdigits.unbroken⟩, fun rest hrest => ?_⟩
  rcases List.suffix_cons_iff.mp hrest with heq | hsuffix
  · exact heq ▸ ⟨_, hsequence, List.prefix_append _ cs⟩
  · exact hdigits.begins rest hsuffix

lemma isEscaped_escaped (cs : List Char) : IsEscaped (escaped cs) := by
  induction cs with
  | nil => exact isEscaped_nil
  | cons c cs ih =>
    rw [escaped_cons, escapedChar]
    split_ifs with hpercent hreturn hfeed
    · exact .sequence_append (by decide) ih
    · exact .sequence_append (by decide) ih
    · exact .sequence_append (by decide) ih
    · exact .cons hpercent hreturn hfeed ih

lemma isEscaped_escapeValue (value : String) : IsEscaped (escapeValue value).toList := by
  rw [toList_escapeValue]
  exact isEscaped_escaped _

@[simp] lemma unbroken_escapeValue (value : String) : Unbroken (escapeValue value).toList :=
  (isEscaped_escapeValue value).unbroken

/-! ### Reading back -/

/-- The sequences are read from the left to the right, and any other character stands for itself. -/
def unescaped : List Char → List Char
  | '%' :: '2' :: '5' :: cs => '%' :: unescaped cs
  | '%' :: '0' :: 'D' :: cs => '\r' :: unescaped cs
  | '%' :: '0' :: 'A' :: cs => '\n' :: unescaped cs
  | c :: cs => c :: unescaped cs
  | [] => []

lemma unescaped_escapedChar_append (c : Char) (cs : List Char) :
    unescaped (escapedChar c ++ cs) = c :: unescaped cs := by
  rw [escapedChar]
  split_ifs with hpercent hreturn hfeed
  · simp [unescaped, hpercent]
  · simp [unescaped, hreturn]
  · simp [unescaped, hfeed]
  · simp [unescaped, hpercent]

lemma unescaped_escaped (cs : List Char) : unescaped (escaped cs) = cs := by
  induction cs with
  | nil => rfl
  | cons c cs ih => rw [escaped_cons, unescaped_escapedChar_append, ih]

lemma IsEscaped.escaped_unescaped (h : IsEscaped cs) : escaped (unescaped cs) = cs := by
  induction cs using unescaped.induct with
  | case1 cs ih =>
    have hrest : escaped (unescaped cs) = cs := ih (h.of_suffix ⟨"%25".toList, rfl⟩)
    simp [unescaped, escaped_cons, escapedChar, hrest]
  | case2 cs ih =>
    have hrest : escaped (unescaped cs) = cs := ih (h.of_suffix ⟨"%0D".toList, rfl⟩)
    simp [unescaped, escaped_cons, escapedChar, hrest]
  | case3 cs ih =>
    have hrest : escaped (unescaped cs) = cs := ih (h.of_suffix ⟨"%0A".toList, rfl⟩)
    simp [unescaped, escaped_cons, escapedChar, hrest]
  | case4 c cs hpercent hreturn hfeed ih =>
    have hplain : c ≠ '%' := by
      rintro rfl
      obtain ⟨sequence, hsequence, rest, hrest⟩ := h.begins cs List.suffix_rfl
      simp only [sequences, List.mem_cons, List.not_mem_nil, or_false] at hsequence
      rcases hsequence with rfl | rfl | rfl
      · exact hpercent rest rfl (List.cons.inj hrest).2.symm
      · exact hreturn rest rfl (List.cons.inj hrest).2.symm
      · exact hfeed rest rfl (List.cons.inj hrest).2.symm
    obtain ⟨⟨hnewline, hcarriage⟩, -⟩ := Text.unbroken_cons.mp h.unbroken
    have hrest : escaped (unescaped cs) = cs := ih (h.of_suffix (List.suffix_cons c cs))
    simp [unescaped, escaped_cons, escapedChar_of_plain hplain hcarriage hnewline, hrest]
  | case5 => rfl

/-- The escaped texts are what comes out for some value. -/
lemma isEscaped_iff : IsEscaped cs ↔ ∃ value : String, (escapeValue value).toList = cs := by
  constructor
  · intro h
    refine ⟨String.ofList (unescaped cs), ?_⟩
    rw [toList_escapeValue, String.toList_ofList, h.escaped_unescaped]
  · rintro ⟨value, rfl⟩
    exact isEscaped_escapeValue value

/-! ### Values -/

lemma unescaped_escapeValue (value : String) :
    unescaped (escapeValue value).toList = value.toList := by
  rw [toList_escapeValue, unescaped_escaped]

lemma escapeValue_injective : Function.Injective escapeValue := by
  intro value other h
  rw [← String.toList_inj, ← unescaped_escapeValue value, h, unescaped_escapeValue]

lemma escapeValue_append (value other : String) :
    escapeValue (value ++ other) = escapeValue value ++ escapeValue other := by
  rw [← String.toList_inj]
  simp only [toList_escapeValue, String.toList_append, escaped_append]

/-- An escaped value has each character replaced for itself. No line break is left in it, and each
percent sign begins a sequence. Reading these back gives the value, so values with the same escaped
text are the same. The escaped text of two values in a row is theirs in a row. -/
theorem escapeValue_lossless (value : String) :
    (escapeValue value).toList = value.toList.flatMap escapedChar ∧
    IsEscaped (escapeValue value).toList ∧
    unescaped (escapeValue value).toList = value.toList ∧
    Function.Injective escapeValue ∧
    ∀ other, escapeValue (value ++ other) = escapeValue value ++ escapeValue other :=
  ⟨toList_escapeValue value, isEscaped_escapeValue value, unescaped_escapeValue value,
    escapeValue_injective, escapeValue_append value⟩

-- what looks like a sequence already is read back as it was
example : escapeValue "50%25\r\n%0A" = "50%2525%0D%0A%250A" := by decide

end Report

end OutlineLint

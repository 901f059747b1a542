import Mathlib.Data.List.Basic
import Mathlib.Tactic.Lemma
import OutlineLint.Proofs.Text.Segments
import OutlineLint.Text.Lines

/-!
# Texts as lists of lines

Cutting a text at its line feeds and writing what stands between them is the identity, in both
directions (`unlines_rawLines`, `rawLines_unlines`). A text can therefore be edited line by line.
-/

namespace OutlineLint.Text

/-- What stands between the line feeds of a text, with any carriage returns. -/
def rawLines (cs : List Char) : List (List Char) :=
  cs.splitOn '\n'

lemma lines_eq_map_rawLines (cs : List Char) : lines cs = (rawLines cs).map dropReturn := rfl

lemma unlines_rawLines (cs : List Char) : unlines (rawLines cs) = cs :=
  List.intercalate_splitOn '\n'

lemma newline_not_mem_of_mem_rawLines {cs line : List Char} (h : line ∈ rawLines cs) :
    '\n' ∉ line :=
  not_mem_of_mem_splitOn h

lemma rawLines_unlines {ls : List (List Char)} (hne : ls ≠ []) (hls : ∀ l ∈ ls, '\n' ∉ l) :
    rawLines (unlines ls) = ls :=
  List.splitOn_intercalate '\n' hls hne

lemma dropReturn_of_not_mem {line : List Char} (h : '\r' ∉ line) : dropReturn line = line := by
  rw [dropReturn, if_neg]
  exact fun hlast => h (List.mem_of_getLast? hlast)

lemma dropReturn_subset (line : List Char) : dropReturn line ⊆ line := by
  rw [dropReturn]
  split
  · exact List.dropLast_subset line
  · exact List.Subset.refl line

lemma newline_not_mem_of_mem_lines {cs line : List Char} (h : line ∈ lines cs) : '\n' ∉ line := by
  obtain ⟨raw, hraw, rfl⟩ := List.mem_map.mp h
  exact fun hnewline => newline_not_mem_of_mem_rawLines hraw (dropReturn_subset raw hnewline)

/-- A text has a line more than it has line feeds. -/
lemma length_rawLines (cs : List Char) : (rawLines cs).length = cs.count '\n' + 1 := by
  induction cs with
  | nil => rfl
  | cons c cs ih =>
    rw [rawLines, List.splitOn_cons_eq_if_modifyHead, List.count_cons]
    rw [rawLines] at ih
    split <;> simp [ih]

lemma rawLines_of_not_mem {cs : List Char} (h : '\n' ∉ cs) : rawLines cs = [cs] :=
  List.splitOn_eq_singleton h

lemma rawLines_append_newline (cs ds : List Char) :
    rawLines (cs ++ '\n' :: ds) = rawLines cs ++ rawLines ds :=
  List.splitOn_append_cons_self cs ds

lemma lines_append_newline (cs ds : List Char) :
    lines (cs ++ '\n' :: ds) = lines cs ++ lines ds := by
  rw [lines_eq_map_rawLines, rawLines_append_newline, List.map_append]
  rfl

/-- If the parts of a text have several lines, these are lines of the text. -/
lemma rawLines_unlines_eq_flatMap {ls : List (List Char)} (hne : ls ≠ []) :
    rawLines (unlines ls) = ls.flatMap rawLines := by
  induction ls with
  | nil => contradiction
  | cons l ls ih =>
    cases ls with
    | nil => simp [unlines]
    | cons l' ls =>
      calc rawLines (unlines (l :: l' :: ls))
          = rawLines (l ++ '\n' :: unlines (l' :: ls)) := by simp [unlines]
        _ = rawLines l ++ rawLines (unlines (l' :: ls)) := rawLines_append_newline _ _
        _ = (l :: l' :: ls).flatMap rawLines := by simp [ih]

lemma flatMap_rawLines_of_not_mem {ls : List (List Char)} (hls : ∀ l ∈ ls, '\n' ∉ l) :
    ls.flatMap rawLines = ls := by
  induction ls with
  | nil => rfl
  | cons l ls ih =>
    obtain ⟨hl, hrest⟩ := List.forall_mem_cons.mp hls
    rw [List.flatMap_cons, rawLines_of_not_mem hl, ih hrest, List.singleton_append]

lemma getLast?_rawLines_unlines (ls : List (List Char)) {last : List Char} (h : '\n' ∉ last) :
    (rawLines (unlines (ls ++ [last]))).getLast? = some last := by
  rw [rawLines_unlines_eq_flatMap (by simp), List.flatMap_append]
  simp [rawLines_of_not_mem h]

/-- Writing lines in a row adds nothing but line feeds. -/
lemma mem_unlines_iff {c : Char} {ls : List (List Char)} (hc : c ≠ '\n') :
    c ∈ unlines ls ↔ ∃ l ∈ ls, c ∈ l := by
  induction ls with
  | nil => simp [unlines]
  | cons l ls ih =>
    rw [unlines] at ih
    cases ls with
    | nil => simp [unlines]
    | cons l' ls => simp [unlines, ih, hc]

/-- Each line but the last stands in the text with a line feed after it. -/
lemma append_newline_infix_unlines {line last : List Char} {ls : List (List Char)}
    (h : line ∈ ls) : line ++ ['\n'] <:+: unlines (ls ++ [last]) := by
  induction ls with
  | nil => contradiction
  | cons l ls ih =>
    have hcons : unlines (l :: ls ++ [last]) = l ++ ['\n'] ++ unlines (ls ++ [last]) := by
      cases ls <;> simp [unlines]
    rw [hcons]
    rcases List.mem_cons.mp h with rfl | hmem
    · exact List.prefix_append _ _ |>.isInfix
    · exact (ih hmem).trans (List.suffix_append _ _).isInfix

/-! ### Line breaks -/

/-- A text without line feeds and carriage returns. -/
def Unbroken (cs : List Char) : Prop :=
  '\n' ∉ cs ∧ '\r' ∉ cs

instance (cs : List Char) : Decidable (Unbroken cs) :=
  inferInstanceAs (Decidable (_ ∧ _))

@[simp] lemma unbroken_nil : Unbroken [] := by simp [Unbroken]

@[simp] lemma unbroken_cons {c : Char} {cs : List Char} :
    Unbroken (c :: cs) ↔ (c ≠ '\n' ∧ c ≠ '\r') ∧ Unbroken cs := by
  simp only [Unbroken, List.mem_cons, not_or, ne_comm (a := c)]
  tauto

@[simp] lemma unbroken_append {cs ds : List Char} :
    Unbroken (cs ++ ds) ↔ Unbroken cs ∧ Unbroken ds := by
  simp only [Unbroken, List.mem_append, not_or]
  tauto

lemma unbroken_intercalate {separator : List Char} {ls : List (List Char)}
    (hseparator : Unbroken separator) (hls : ∀ l ∈ ls, Unbroken l) :
    Unbroken (separator.intercalate ls) := by
  induction ls with
  | nil => simp
  | cons l ls ih =>
    obtain ⟨hl, hrest⟩ := List.forall_mem_cons.mp hls
    cases ls with
    | nil => simpa using hl
    | cons l' ls => simp [hl, hseparator, ih hrest]

/-- The decimal form of a number is a text without line breaks. -/
@[simp] lemma unbroken_toDigits (n : Nat) : Unbroken (Nat.toDigits 10 n) := by
  have hdigits : ∀ c ∈ Nat.toDigits 10 n, c.isDigit = true :=
    fun c => Nat.isDigit_of_mem_toDigits (by decide) (by decide)
  exact ⟨fun h => absurd (hdigits _ h) (by decide), fun h => absurd (hdigits _ h) (by decide)⟩

/-! ### Replacing lines -/

/-- The text with other lines between the `i`-th and the `j`-th, which stay. -/
def replaceBetween (cs : List Char) (i j : Nat) (ls : List (List Char)) : List Char :=
  unlines ((rawLines cs).take (i + 1) ++ ls ++ (rawLines cs).drop j)

lemma lines_replaceBetween (cs : List Char) (i j : Nat) {ls : List (List Char)}
    (hls : ∀ l ∈ ls, '\n' ∉ l ∧ '\r' ∉ l) :
    lines (replaceBetween cs i j ls) = (lines cs).take (i + 1) ++ ls ++ (lines cs).drop j := by
  have hne : (rawLines cs).take (i + 1) ++ ls ++ (rawLines cs).drop j ≠ [] := by
    simp [rawLines, List.splitOn_ne_nil]
  have hraw : ∀ l ∈ (rawLines cs).take (i + 1) ++ ls ++ (rawLines cs).drop j, '\n' ∉ l := by
    intro l hl
    rcases List.mem_append.mp hl with hl | hl
    · rcases List.mem_append.mp hl with hl | hl
      · exact newline_not_mem_of_mem_rawLines (List.mem_of_mem_take hl)
      · exact (hls l hl).1
    · exact newline_not_mem_of_mem_rawLines (List.mem_of_mem_drop hl)
  have hreturn : ls.map dropReturn = ls :=
    (List.map_congr_left fun l hl => dropReturn_of_not_mem (hls l hl).2).trans (List.map_id' ls)
  rw [lines_eq_map_rawLines, replaceBetween, rawLines_unlines hne hraw]
  simp [lines_eq_map_rawLines, hreturn, List.map_take, List.map_drop]

/-- The text with another line in the place of the `i`-th. -/
def replaceLine (cs : List Char) (i : Nat) (line : List Char) : List Char :=
  unlines ((rawLines cs).set i line)

lemma lines_replaceLine (cs : List Char) (i : Nat) {line : List Char} (hline : '\n' ∉ line) :
    lines (replaceLine cs i line) = (lines cs).set i (dropReturn line) := by
  have hne : (rawLines cs).set i line ≠ [] := by simp [rawLines, List.splitOn_ne_nil]
  have hraw : ∀ l ∈ (rawLines cs).set i line, '\n' ∉ l := by
    intro l hl
    rcases List.mem_or_eq_of_mem_set hl with hl | rfl
    · exact newline_not_mem_of_mem_rawLines hl
    · exact hline
  rw [lines_eq_map_rawLines, replaceLine, rawLines_unlines hne hraw, List.map_set]
  rfl

end OutlineLint.Text

/-!
# Blank characters

The characters that count as blank are those with the Unicode property `White_Space`. Trimming
removes them from the ends of a text; a text of blanks only counts as empty wherever a value must
not be empty.
-/

namespace OutlineLint.Text

/-- A character with the Unicode property `White_Space`. -/
def isBlank (c : Char) : Bool :=
  let n := c.toNat
  (0x09 ≤ n && n ≤ 0x0D) || n == 0x20 || n == 0x85 || n == 0xA0 || n == 0x1680 ||
    (0x2000 ≤ n && n ≤ 0x200A) || n == 0x2028 || n == 0x2029 || n == 0x202F || n == 0x205F ||
    n == 0x3000

/-! ### Trimming lists of characters -/

/-- Drops the blanks at the start. -/
def trimStart (cs : List Char) : List Char :=
  cs.dropWhile isBlank

/-- Drops the blanks at the end. -/
def trimEnd (cs : List Char) : List Char :=
  (cs.reverse.dropWhile isBlank).reverse

@[simp] theorem trimStart_nil : trimStart [] = [] := rfl

@[simp] theorem trimEnd_nil : trimEnd [] = [] := rfl

/-- What is dropped at the start is blank. -/
theorem all_trimStart (cs : List Char) : (trimStart cs).all isBlank = cs.all isBlank := by
  induction cs with
  | nil => rfl
  | cons c cs ih =>
    rw [trimStart] at ih ⊢
    by_cases hc : isBlank c = true <;> simp [hc, ih]

theorem trimStart_eq_nil_iff {cs : List Char} : trimStart cs = [] ↔ cs.all isBlank = true := by
  induction cs with
  | nil => simp
  | cons c cs ih =>
    rw [trimStart] at ih ⊢
    by_cases hc : isBlank c = true <;> simp [hc, ih]

theorem trimEnd_eq_nil_iff {cs : List Char} : trimEnd cs = [] ↔ cs.all isBlank = true := by
  rw [trimEnd, List.reverse_eq_nil_iff, ← trimStart, trimStart_eq_nil_iff, List.all_reverse]

/-! ### Trimming strings -/

/-- Drops the blanks at both ends. -/
def trim (s : String) : String :=
  String.ofList (trimEnd (trimStart s.toList))

/-- Whether there is nothing but blanks. -/
def isAllBlank (s : String) : Bool :=
  s.toList.all isBlank

/-- Trimming leaves nothing of a text of blanks, and of no other text. -/
theorem trim_eq_empty_iff {s : String} : trim s = "" ↔ isAllBlank s = true := by
  rw [trim, String.ofList_eq_empty_iff, trimEnd_eq_nil_iff, all_trimStart, isAllBlank]

theorem isAllBlank_eq_false_iff {s : String} : isAllBlank s = false ↔ trim s ≠ "" := by
  rw [Ne, trim_eq_empty_iff, Bool.not_eq_true]

end OutlineLint.Text

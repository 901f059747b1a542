/-!
# Finding a text in another

`occursIn part whole` holds exactly when `part` stands somewhere in `whole` as a block of
neighbouring elements (`occursIn_iff`).
-/

namespace OutlineLint.Text

/-- Whether `part` is a contiguous part of `whole`. -/
def occursIn {α : Type} [BEq α] (part : List α) : List α → Bool
  | [] => part.isEmpty
  | x :: rest => part.isPrefixOf (x :: rest) || occursIn part rest

theorem occursIn_iff {α : Type} [BEq α] [LawfulBEq α] {part whole : List α} :
    occursIn part whole = true ↔ part <:+: whole := by
  induction whole with
  | nil => simp [occursIn, List.infix_nil]
  | cons x rest ih =>
    simp only [occursIn, Bool.or_eq_true, List.isPrefixOf_iff_prefix, ih, List.infix_cons_iff]

/-- Whether a string stands in another. -/
def contains (whole part : String) : Bool :=
  occursIn part.toList whole.toList

/-- Whether a string stands at the end of another. -/
def endsWith (whole tail : String) : Bool :=
  tail.toList.isSuffixOf whole.toList

end OutlineLint.Text

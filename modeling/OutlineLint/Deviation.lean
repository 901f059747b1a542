import OutlineLint.Diagnostic

/-!
# Deviations

The ways in which the headings of one document can differ from its schema.
-/

namespace OutlineLint

inductive Deviation
  /-- Required headings that the document lacks, in the schema's order. -/
  | missing (headings : List String)
  /-- `before` belongs ahead of `after`; positions in the schema count from 1. -/
  | outOfOrder (before after : String) (position : Nat)
  /-- Headings that the schema does not name, in the document's order. -/
  | extra (headings : List String)
  /-- An optional heading that stands before the anchor. -/
  | optionalMisplaced (heading anchor : String)
  deriving DecidableEq, Repr

namespace Deviation

/-- The code of a diagnostic about the deviation. -/
def code : Deviation → Diagnostic.Code
  | missing _ => .structuralMissing
  | outOfOrder .. => .structuralOrder
  | extra _ => .structuralExtra
  | optionalMisplaced .. => .structuralMisplacedOptional

end Deviation

end OutlineLint

import OutlineLint.Deviation
import OutlineLint.Strictness

/-!
# Severity of deviations

A deviation weighs differently in a template and in an artifact, and in an artifact it depends on
the strictness. Extra headings of an artifact are not reported at all under the relaxed strictness.
-/

namespace OutlineLint

/-- As what a document is compared with its schema. -/
inductive Role
  | template
  | artifact (strictness : Strictness)
  deriving DecidableEq, Repr

namespace Role

/-- The word for a document of the role, at the start of a sentence. -/
def label : Role → String
  | template => "Template"
  | artifact _ => "Artifact"

end Role

/-- The severity of a deviation, or `none` if it is not reported. -/
def Deviation.severity? : Deviation → Role → Option Severity
  | .missing _, .template => some .error
  | .missing _, .artifact .relaxed => some .warning
  | .missing _, .artifact .standard => some .error
  | .outOfOrder .., _ => some .error
  | .extra _, .artifact .relaxed => none
  | .extra _, _ => some .warning
  | .optionalMisplaced .., _ => some .warning

end OutlineLint

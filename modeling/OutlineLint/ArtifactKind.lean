import OutlineLint.Text.Blank

/-!
# Kinds of artifacts

A kind is named in lower-case kebab-case: letters `a` to `z`, digits and hyphens, with no hyphen at
either end. The name is kept without the blanks around it.
-/

namespace OutlineLint

/-- A character that a kind's name may hold. -/
def isKebabChar (c : Char) : Bool :=
  c.isLower || c.isDigit || c == '-'

/-- Lower-case kebab-case. -/
def isKebab (name : List Char) : Bool :=
  !name.isEmpty && name.head? != some '-' && name.getLast? != some '-' && name.all isKebabChar

/-- The kind of an artifact. -/
structure ArtifactKind where
  name : String
  kebab : isKebab name.toList = true
  deriving DecidableEq, Repr

namespace ArtifactKind

/-- Why a text names no kind. -/
inductive Error
  | empty
  | malformed (name : String)
  deriving DecidableEq, Repr

def Error.message : Error → String
  | .empty => "artifact kind cannot be empty"
  | .malformed name => s!"invalid artifact kind `{name}`: expected lowercase kebab-case"

/-- Reads a kind from a text that may have blanks around the name. -/
def parse (text : String) : Except Error ArtifactKind :=
  let name := Text.trim text
  if name.isEmpty then .error .empty
  else if h : isKebab name.toList = true then .ok ⟨name, h⟩
  else .error (.malformed name)

instance : ToString ArtifactKind := ⟨ArtifactKind.name⟩

/-- Kinds are ordered by their names. -/
instance : Ord ArtifactKind := ⟨fun a b => compare a.name b.name⟩

end ArtifactKind

end OutlineLint

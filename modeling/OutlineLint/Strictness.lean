import OutlineLint.Text.Blank

/-!
# Strictness

How severely a generated artifact is judged. `relaxed` is the default.
-/

namespace OutlineLint

inductive Strictness
  | relaxed
  | standard
  deriving DecidableEq, Repr

namespace Strictness

instance : Inhabited Strictness := ⟨relaxed⟩

/-- Both levels, in the order in which they are listed. -/
def all : List Strictness := [relaxed, standard]

def name : Strictness → String
  | relaxed => "relaxed"
  | standard => "standard"

/-- A text that names no level, without the blanks around it. -/
structure Unknown where
  text : String
  deriving DecidableEq, Repr

def Unknown.message (unknown : Unknown) : String :=
  s!"invalid strictness `{unknown.text}`: expected relaxed or standard"

/-- Reads a level from a text that may have blanks around the name. -/
def parse (text : String) : Except Unknown Strictness :=
  let trimmed := Text.trim text
  match all.find? (·.name == trimmed) with
  | some level => .ok level
  | none => .error ⟨trimmed⟩

instance : ToString Strictness := ⟨Strictness.name⟩

@[simp] theorem parse_name (level : Strictness) : parse level.name = .ok level := by
  cases level <;> rfl

end Strictness

end OutlineLint

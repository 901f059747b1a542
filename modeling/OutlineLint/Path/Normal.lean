import OutlineLint.Path.Basic

/-!
# Normal forms of paths

Normalising a path takes out every `.` and lets every `..` take back the name before it; at the
root, and where no name is left, a `..` has no effect. It looks at the spelling only. From the
normal forms of two paths follows the shortest way from the one to the other.
-/

namespace OutlineLint.Path

/-- Takes one more component, the latest first. -/
def pushComponent (stack : List Component) : Component → List Component
  | .current => stack
  | .parent =>
    match stack with
    | .name _ :: rest => rest
    | _ => stack
  | c => c :: stack

/-- The components of the normal form. -/
def normalComponents (p : Path) : List Component :=
  (p.components.foldl pushComponent []).reverse

/-- The normal form. -/
def normalize (p : Path) : Path := ofComponents p.normalComponents

/-- The normal form as text, with its components between slashes; the root is itself a slash. -/
def display (p : Path) : String :=
  "/".intercalate (p.normalComponents.map Component.text)

/-! ### The way from one path to another -/

/-- What is left of two lists after their longest common start. -/
def dropCommon {α : Type} [DecidableEq α] : List α → List α → List α × List α
  | a :: as, b :: bs => if a = b then dropCommon as bs else (a :: as, b :: bs)
  | as, bs => (as, bs)

/-- The way from the directory `dir` to `target`: up as often as needed, then down. -/
def wayTo (dir target : Path) : List String :=
  let (up, down) := dropCommon dir.normalComponents target.normalComponents
  up.map (fun _ => "..") ++ down.map Component.text

/-- The way from the directory `dir` to `target` as text. -/
def relativeTo (dir target : Path) : String :=
  "/".intercalate (wayTo dir target)

end OutlineLint.Path

import OutlineLint.Text.Utf8

/-!
# Paths

A path is kept as it is spelled, as bytes. Its components are what it means: repeated and trailing
slashes and every `.` but a leading one do not count. Paths are compared by their components, names
by their bytes.
-/

namespace OutlineLint

/-- A path as it is spelled. -/
structure Path where
  bytes : List UInt8
  deriving DecidableEq, Repr

namespace Path

/-- The name of a file or directory. -/
abbrev Name := List UInt8

def slash : UInt8 := 0x2F

def dot : UInt8 := 0x2E

/-- The path spelled by a text. -/
def ofString (s : String) : Path := ⟨Text.bytes s⟩

/-- The path with the empty spelling. -/
def empty : Path := ⟨[]⟩

/-- The spelling as text. -/
def text (p : Path) : String := Text.lossy p.bytes

@[simp] theorem text_ofString (s : String) : (ofString s).text = s := by
  simp [text, ofString]

/-- Whether the path starts at the root. -/
def isAbsolute (p : Path) : Bool := p.bytes.head? == some slash

/-! ### Components -/

/-- One step of a path. -/
inductive Component
  | root
  | current
  | parent
  | name (bytes : Name)
  deriving DecidableEq, Repr

namespace Component

/-- How the component is spelled. -/
def bytes : Component → List UInt8
  | root => [slash]
  | current => [dot]
  | parent => [dot, dot]
  | name bs => bs

/-- The spelling as text. -/
def text (c : Component) : String := Text.lossy c.bytes

/-- The order key of a component: the root, `.`, `..`, then names by their bytes. -/
def key : Component → List Nat
  | root => [0]
  | current => [1]
  | parent => [2]
  | name bs => 3 :: bs.map UInt8.toNat

theorem key_injective {a b : Component} (h : a.key = b.key) : a = b := by
  match a, b with
  | root, root | current, current | parent, parent => rfl
  | name x, name y =>
    have h' : x.map UInt8.toNat = y.map UInt8.toNat := List.tail_eq_of_cons_eq h
    rw [(List.map_inj_right fun _ _ => UInt8.toNat_inj.1).1 h']
  | root, current | root, parent | root, name _ => simp [key] at h
  | current, root | current, parent | current, name _ => simp [key] at h
  | parent, root | parent, current | parent, name _ => simp [key] at h
  | name _, root | name _, current | name _, parent => simp [key] at h

/-- Whether a component comes before another. -/
def before (a b : Component) : Bool := a.key.lex b.key fun m n => decide (m < n)

end Component

/-- The component that a piece between slashes stands for; nothing and `.` stand for none. -/
def component? (piece : List UInt8) : Option Component :=
  if piece.isEmpty || piece == [dot] then none
  else if piece == [dot, dot] then some .parent
  else some (.name piece)

/-- The pieces of the spelling between slashes. -/
def pieces (p : Path) : List (List UInt8) := p.bytes.splitOn slash

/-- What the first piece stands for: if there is a slash after nothing the root, if it is `.` the
current directory. -/
def leading (p : Path) (piece : List UInt8) : List Component :=
  if p.isAbsolute then [.root]
  else if piece == [dot] then [.current]
  else (component? piece).toList

/-- The components of a path. -/
def components (p : Path) : List Component :=
  match p.pieces with
  | [] => []
  | piece :: rest => leading p piece ++ rest.filterMap component?

/-- Orders paths component by component. -/
def le (p q : Path) : Bool := !q.components.lex p.components Component.before

/-- Whether two paths have the same components. -/
def equivalent (p q : Path) : Bool := p.components == q.components

/-! ### Joining and taking apart -/

/-- What stands between two paths that are joined: a slash, unless the first is empty or ends with
one. -/
def separator (p : Path) : List UInt8 :=
  match p.bytes.getLast? with
  | none => []
  | some last => if last = slash then [] else [slash]

/-- `q` as seen from `p`. An absolute `q` stays as it is. -/
def join (p q : Path) : Path :=
  if q.isAbsolute then q else ⟨p.bytes ++ p.separator ++ q.bytes⟩

/-- The path spelled by joining components. -/
def ofComponents (cs : List Component) : Path :=
  cs.foldl (fun p c => p.join ⟨c.bytes⟩) empty

/-- The path without its last component. -/
def parent (p : Path) : Path := ofComponents p.components.dropLast

/-- The last component, if it is a name. -/
def fileName? (p : Path) : Option Name :=
  match p.components.getLast? with
  | some (.name bs) => some bs
  | _ => none

/-- Skips pieces up to and including the given number of components, and whatever stands for none
after them. -/
def skipComponents : Nat → List (List UInt8) → List (List UInt8)
  | _, [] => []
  | 0, piece :: rest =>
    if (component? piece).isNone then skipComponents 0 rest else piece :: rest
  | n + 1, piece :: rest =>
    if (component? piece).isNone then skipComponents (n + 1) rest else skipComponents n rest

/-- The rest of the spelling after `n` components. The first component is always the first piece. -/
def afterComponents (p : Path) : Nat → Path
  | 0 => p
  | n + 1 => ⟨[slash].intercalate (skipComponents n (p.pieces.drop 1))⟩

/-- The spelling of `p` below `base`, if `p` starts with the components of `base`. -/
def below? (p base : Path) : Option Path :=
  if base.components.isPrefixOf p.components then some (p.afterComponents base.components.length)
  else none

end Path

end OutlineLint

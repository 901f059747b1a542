import OutlineLint.FileTree.Basic

/-!
# Following paths

A path is followed step by step from a directory. A `..` goes to the directory above, and stays at
the top; a symbolic link is followed from the directory that holds it. A path that ends with a slash
or with `.` has to lead to a directory. At most forty links are followed.
-/

namespace OutlineLint.FileTree

/-- One step along a path. -/
inductive Step
  | stay
  | up
  | down (name : Path.Name)
  deriving DecidableEq, Repr

/-- The step for a piece between slashes. An empty last piece makes sure that the path ends at a
directory; other empty pieces are no steps. -/
def stepsOfPieces : List (List UInt8) → List Step
  | [] => []
  | [piece] => [step piece]
  | piece :: rest => if piece.isEmpty then stepsOfPieces rest else step piece :: stepsOfPieces rest
where
  step (piece : List UInt8) : Step :=
    if piece.isEmpty || piece == [Path.dot] then .stay
    else if piece == [Path.dot, Path.dot] then .up
    else .down piece

/-- The steps along a path. -/
def steps (path : Path) : List Step := stepsOfPieces path.pieces

/-- The most links that are followed on the way. -/
def maxLinks : Nat := 40

/-- The most bytes of a name. -/
def maxName : Nat := 255

/-- The most bytes of a path. -/
def maxPath : Nat := 4095

/-- Follows steps from a place. At a link it goes on as `jump` says, with the place from which the
target of the link is seen and with all the steps that are then ahead. -/
def advance (tree : FileTree) (jump : Place → List Step → Except Fault Place) (place : Place) :
    List Step → Except Fault Place
  | [] => .ok place
  | step :: rest =>
    match tree.entriesAt? place with
    | none => .error .notDirectory
    | some entries =>
      match step with
      | .stay => advance tree jump place rest
      | .up => advance tree jump place.dropLast rest
      | .down name =>
        if maxName < name.length then .error .nameTooLong
        else
          match entries.lookup name with
          | none => .error .notFound
          | some (.link target) =>
            jump (if target.isAbsolute then [] else place) (steps target ++ rest)
          | some _ => advance tree jump (place ++ [name]) rest

/-- Follows steps from a place, over at most the given number of links. -/
def follow (tree : FileTree) : Nat → Place → List Step → Except Fault Place
  | 0 => advance tree fun _ _ => .error .tooManyLinks
  | links + 1 => advance tree (follow tree links)

/-- Where a path is seen from. -/
def origin (tree : FileTree) (path : Path) : Place :=
  if path.isAbsolute then [] else tree.workingDirectory

/-- The place to which a path leads. -/
def resolve (tree : FileTree) (path : Path) : Except Fault Place :=
  if path.bytes.contains 0 then .error .nulByte
  else if path.bytes.isEmpty then .error .notFound
  else if maxPath < path.bytes.length then .error .nameTooLong
  else follow tree maxLinks (tree.origin path) (steps path)

/-- What stands at the place to which a path leads. -/
def find? (tree : FileTree) (path : Path) : Option Node :=
  (tree.resolve path).toOption.bind tree.at?

/-- Whether a path leads anywhere. -/
def isPresent (tree : FileTree) (path : Path) : Bool := (tree.find? path).isSome

/-- The entries of the directory to which a path leads. -/
def entries? (tree : FileTree) (path : Path) : Option Entries :=
  (tree.find? path).bind Node.entries?

/-- The bytes of the file to which a path leads. -/
def readBytes (tree : FileTree) (path : Path) : Except Fault (List UInt8) := do
  let place ← tree.resolve path
  match tree.at? place with
  | some (.file content) => .ok content
  | some (.directory _) => .error .isDirectory
  | some _ => .error .noDevice
  | none => .error .notFound

/-- The text of the file to which a path leads, as it stands there. -/
def readText (tree : FileTree) (path : Path) : Except Fault String := do
  let content ← tree.readBytes path
  match Text.ofBytes? content with
  | some text => .ok text
  | none => .error .notText

end OutlineLint.FileTree

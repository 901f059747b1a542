import OutlineLint.FileTree.Walk
import OutlineLint.Repository
import OutlineLint.Text.Lines

/-!
# A file tree as a repository

Relative paths are seen from the root of the repository. Texts are read with unified line endings,
and the files below a directory are named as they are seen from the root.
-/

namespace OutlineLint.FileTree

/-- The text of a file. -/
def readFrom (tree : FileTree) (root path : Path) : Except AccessError String :=
  let target := root.join path
  match tree.readText target with
  | .ok text => .ok (Text.unifyLineEndings text)
  | .error fault => .error (.io .readText target fault.message)

/-- A path as seen from the root. -/
def seenFrom (root path : Path) : Except AccessError Path :=
  match path.below? root with
  | some rest => .ok rest
  | none => .error (.pathViolation path s!"walked outside of {root.text}")

/-- The files below a directory, as seen from the root. The path of every directory on the way has
to be short enough to be followed. -/
def filesFrom (tree : FileTree) (root path : Path) : Except AccessError (List Path) :=
  let target := root.join path
  match (tree.visited target).find? fun directory => maxPath < directory.bytes.length with
  | some directory => .error (.io .listDirectory directory Fault.nameTooLong.message)
  | none => ((tree.walk target).mapM (seenFrom root)).map ordered

/-- The repository with the given root in a file tree. -/
def repository (tree : FileTree) (root : Path) : Repository where
  root := root
  isPresent := fun path => tree.isPresent (root.join path)
  read := tree.readFrom root
  files := tree.filesFrom root

end OutlineLint.FileTree

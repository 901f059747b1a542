import OutlineLint.FileTree.Resolve

/-!
# The files below a directory

A walk goes through the directories below a directory, without following a link, and lists the
files it meets in the order of their paths. It fails at a directory whose path is too long.
-/

namespace OutlineLint.FileTree

mutual

/-- The files at and below a node, by paths that start with the given one. -/
def Node.files (path : Path) : Node → List Path
  | .file _ => [path]
  | .directory entries => filesOfEntries path entries
  | .link _ => []
  | .socket => []

/-- The files at and below the entries of a directory. -/
def filesOfEntries (directory : Path) : List (Path.Name × Node) → List Path
  | [] => []
  | (name, node) :: rest =>
    node.files (directory.join ⟨name⟩) ++ filesOfEntries directory rest

end

mutual

/-- The directories at and below a node, by paths that start with the given one. Each comes before
those below it. -/
def Node.directories (path : Path) : Node → List Path
  | .directory entries => path :: directoriesOfEntries path entries
  | .file _ => []
  | .link _ => []
  | .socket => []

/-- The directories at and below the entries of a directory. -/
def directoriesOfEntries (directory : Path) : List (Path.Name × Node) → List Path
  | [] => []
  | (name, node) :: rest =>
    node.directories (directory.join ⟨name⟩) ++ directoriesOfEntries directory rest

end

/-- The files below the directory to which a path leads; none if it leads to something else. -/
def walk (tree : FileTree) (path : Path) : List Path :=
  match tree.entries? path with
  | some entries => filesOfEntries path entries
  | none => []

/-- The directories that a walk goes through. -/
def visited (tree : FileTree) (path : Path) : List Path :=
  match tree.find? path with
  | some node => node.directories path
  | none => []

/-- Drops each path that has the same components as the one before it. -/
def dropRepeated : List Path → List Path
  | p :: q :: rest =>
    if p.equivalent q then dropRepeated (p :: rest) else p :: dropRepeated (q :: rest)
  | paths => paths

/-- Paths in their order, each once. -/
def ordered (paths : List Path) : List Path := dropRepeated (paths.mergeSort Path.le)

end OutlineLint.FileTree

import OutlineLint.CommandLine.Run
import OutlineLint.FileTree.Edit

/-!
# The program

Takes a picture of the files on disk that a command looks at, runs the program on it, and prints
what comes out.
-/

namespace OutlineLint.Main

open FileTree (Node)

/-- Where a path is on disk. -/
def onDisk (path : Path) : IO IO.FS.DirEntry :=
  return { root := ← IO.currentDir, fileName := path.text }

/-- What stands at a place on disk, of a directory nothing but its being there. A link that cannot be
followed, since it leads back to itself, is kept as such a link. -/
def node? (followLink : Bool) (entry : IO.FS.DirEntry) : IO (Option Node) := do
  let place := entry.path
  try
    let info ← if followLink then place.metadata else place.symlinkMetadata
    match info.type with
    | .file => return some (.file (← IO.FS.readBinFile place).data.toList)
    | .dir => return some (.directory [])
    | .symlink => return some (.link (.ofString (← IO.FS.realPath place).toString))
    | .other => return some .socket
  catch
  | .noFileOrDirectory .. => return none
  | _ =>
    try
      match (← place.symlinkMetadata).type with
      | .symlink => return some (.link (.ofString place.toString))
      | _ => return none
    catch _ => return none

/-- Adds what stands at a place on disk to a tree, with all that is below it. Links below it are kept
as links. -/
partial def addEntry (followLink : Bool) (tree : FileTree) (path : Path)
    (entry : IO.FS.DirEntry) : IO FileTree := do
  match ← node? followLink entry with
  | none => return tree
  | some (.directory _) =>
    let children ← try entry.path.readDir catch _ => pure #[]
    children.toList.foldlM
      (fun tree child => addEntry false tree (path.join (.ofString child.fileName)) child)
      (tree.insert path (.directory []))
  | some node => return tree.insert path node

/-- The paths that lead to the slashes of a path. -/
def way (path : Path) : List Path :=
  (List.range path.bytes.length).filterMap fun n =>
    if path.bytes[n]? = some Path.slash then some ⟨path.bytes.take n⟩ else none

/-- Adds what stands on the way to a path. -/
def addWay (tree : FileTree) (path : Path) : IO FileTree :=
  (way path).foldlM (fun tree path => do
    match ← node? true (← onDisk path) with
    | some node => return tree.insert path node
    | none => return tree) tree

/-- Adds what is on disk at a path to a tree, also under the path without links, to which links in
the tree lead. -/
def addPath (tree : FileTree) (path : Path) : IO FileTree := do
  let entry ← onDisk path
  let tree ←
    try addEntry true tree (.ofString (← IO.FS.realPath entry.path).toString) entry
    catch _ => pure tree
  addEntry true (← addWay tree path) path entry

/-- Adds what is on disk at paths that are seen from a root. -/
def addPaths (tree : FileTree) (root : Path) (paths : List Path) : IO FileTree :=
  paths.foldlM (fun tree path => addPath tree (root.join path)) tree

/-- The files on disk that a command looks at. -/
def treeFor (root : Path) (command : CommandLine.Command) : IO FileTree := do
  let here := Path.ofString (← IO.currentDir).toString
  let place := here.normalComponents.filterMap fun
    | .name bytes => some bytes
    | _ => none
  let start := FileTree.insert ⟨[], place⟩ here (.directory [])
  let catalog ← addPaths start root command.catalogPath?.toList
  addPaths start root (command.paths (catalog.repository root))

/-- Words for what the libraries of the program word for themselves. -/
def wording : CommandLine.Wording where
  readError _ error :=
    match error with
    | .malformed => "the text is no TOML document, or a row in it has too few values"
    | .mismatch mismatch => mismatch.message
  help command _ :=
    match command with
    | some name => s!"Usage: artifact-lint {name} [OPTIONS]\n"
    | none =>
      "Usage: artifact-lint [OPTIONS] <COMMAND>\n\nCommands: check, catalog, doctor, schema\n"

/-- Runs the program and prints what comes out. -/
def run (words : List String) : IO UInt32 := do
  let fromEnv ← IO.getEnv "STRICTNESS"
  let tree ←
    match CommandLine.parse words fromEnv with
    | .run root command => treeFor (root.getD (.ofString ".")) command
    | .usage | .version | .help .. => pure ⟨[], []⟩
  let exit := CommandLine.run wording tree words fromEnv
  IO.print exit.output
  if exit.failure.isSome then IO.eprintln (exit.message wording)
  return UInt32.ofNat exit.code

end OutlineLint.Main

/-- The program. -/
def main (words : List String) : IO UInt32 := OutlineLint.Main.run words

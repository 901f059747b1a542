import OutlineLint.FileTree.Resolve

/-!
# Changing file trees

Something can be put at a path, and what stands at a path can be taken away. Directories that are
missing on the way are made. Where the way is blocked by something that is no directory, or the place
is taken by something else, the tree stays as it is.
-/

namespace OutlineLint.FileTree

/-- Puts a node into the entries of a directory, in the place of one with the same name. -/
def insertEntry (name : Path.Name) (node : Node) : Entries → Entries
  | [] => [(name, node)]
  | (other, old) :: rest =>
    if name = other then (name, node) :: rest else (other, old) :: insertEntry name node rest

/-- Changes the entries of the directory at a place below the given entries. -/
def changeEntries (change : Entries → Entries) : Place → Entries → Entries
  | [], entries => change entries
  | name :: rest, entries =>
    match entries.lookup name with
    | some (.directory below) =>
      insertEntry name (.directory (changeEntries change rest below)) entries
    | _ => entries

/-- Changes the entries of the directory at a place. -/
def changeAt (tree : FileTree) (place : Place) (change : Entries → Entries) : FileTree :=
  { tree with top := changeEntries change place tree.top }

/-- Follows steps from a place and makes the directories that are missing. -/
def makeDirectories (tree : FileTree) (place : Place) : List Step → FileTree × Option Place
  | [] => (tree, some place)
  | .stay :: rest => makeDirectories tree place rest
  | .up :: rest => makeDirectories tree place.dropLast rest
  | .down name :: rest =>
    match (tree.entriesAt? place).bind (·.lookup name) with
    | none =>
      makeDirectories (tree.changeAt place (insertEntry name (.directory []))) (place ++ [name]) rest
    | some _ =>
      match tree.follow maxLinks place [.down name, .stay] with
      | .ok next => makeDirectories tree next rest
      | .error _ => (tree, none)

/-- Puts a node under a name into the directory at a place. What stands there stays, with two
exceptions: a file takes the place of a file, and where a link stands it is put where the link
leads, over at most the given number of links. -/
def putAt (node : Node) : Nat → FileTree → Place → Path.Name → FileTree
  | links, tree, place, name =>
    match (tree.entriesAt? place).bind (·.lookup name), node with
    | none, _ => tree.changeAt place (insertEntry name node)
    | some (.file _), .file _ => tree.changeAt place (insertEntry name node)
    | some (.link target), .file _ =>
      match links with
      | 0 => tree
      | links + 1 =>
        let start := if target.isAbsolute then [] else place
        match (steps target).getLast?, tree.follow links start (steps target).dropLast with
        | some (.down last), .ok place => putAt node links tree place last
        | _, _ => tree
    | some _, _ => tree

/-- Puts a node at a path. -/
def insert (tree : FileTree) (path : Path) (node : Node) : FileTree :=
  match (steps path).getLast? with
  | some (.down name) =>
    match tree.makeDirectories (tree.origin path) (steps path).dropLast with
    | (tree, some place) => putAt node maxLinks tree place name
    | (tree, none) => tree
  | _ => (tree.makeDirectories (tree.origin path) (steps path)).1

/-- Takes away what stands at a path, with all that is below it. A link is itself taken away. -/
def erase (tree : FileTree) (path : Path) : FileTree :=
  let way := (steps path).filter (· != .stay)
  match way.getLast? with
  | some (.down name) =>
    match tree.follow maxLinks (tree.origin path) way.dropLast with
    | .ok place => tree.changeAt place (·.filter (·.1 != name))
    | .error _ => tree
  | _ => tree

end OutlineLint.FileTree

import OutlineLint.Path.Basic

/-!
# File trees

A file tree holds directories, files, symbolic links and sockets. A place in it is named by the
names on the way from the top, which pass through directories only.
-/

namespace OutlineLint

/-- What stands at one place of a file tree. -/
inductive FileTree.Node
  | file (content : List UInt8)
  | directory (entries : List (Path.Name × FileTree.Node))
  | link (target : Path)
  /-- Something that is neither file nor directory. -/
  | socket

/-- The entries at the top, and the working directory, from which relative paths are seen. -/
structure FileTree where
  top : List (Path.Name × FileTree.Node)
  workingDirectory : List Path.Name

namespace FileTree

/-- The entries of a directory. -/
abbrev Entries := List (Path.Name × Node)

/-- The names on the way from the top to a place. -/
abbrev Place := List Path.Name

/-- The entries of a directory, for anything else none. -/
def Node.entries? : Node → Option Entries
  | .directory entries => some entries
  | _ => none

/-- What stands at a place below a node. -/
def Node.at? (node : Node) : Place → Option Node
  | [] => some node
  | name :: rest =>
    match node.entries?.bind (·.lookup name) with
    | some child => child.at? rest
    | none => none

/-- What stands at a place. -/
def at? (tree : FileTree) (place : Place) : Option Node :=
  (Node.directory tree.top).at? place

/-- The entries of the directory at a place. -/
def entriesAt? (tree : FileTree) (place : Place) : Option Entries :=
  (tree.at? place).bind Node.entries?

/-! ### Faults -/

/-- Why a path leads nowhere, or a file cannot be read. -/
inductive Fault
  | notFound
  | notDirectory
  | isDirectory
  | tooManyLinks
  | nameTooLong
  | noDevice
  | notText
  | nulByte
  deriving DecidableEq, Repr

def Fault.message : Fault → String
  | notFound => "No such file or directory (os error 2)"
  | notDirectory => "Not a directory (os error 20)"
  | isDirectory => "Is a directory (os error 21)"
  | tooManyLinks => "Too many levels of symbolic links (os error 40)"
  | nameTooLong => "File name too long (os error 36)"
  | noDevice => "No such device or address (os error 6)"
  | notText => "stream did not contain valid UTF-8"
  | nulByte => "file name contained an unexpected NUL byte"

end FileTree

end OutlineLint

import OutlineLint.ArtifactKind
import OutlineLint.Path.Basic
import OutlineLint.Schema
import OutlineLint.Text.Search

/-!
# Catalogs

A catalog lists the kinds of artifacts: by which ending of its name a file belongs to a kind, where
the template is, which agent writes such artifacts, and which headings they have.
-/

namespace OutlineLint

/-- What a catalog holds for one kind of artifact. -/
structure Catalog.Entry where
  kind : ArtifactKind
  /-- The name of the artifacts, or the end of their names. -/
  fileName : String
  template : Path
  /-- The document of the agent that writes the artifacts, if there is one. -/
  agent : Option Path
  schema : Schema
  deriving DecidableEq

structure Catalog where
  /-- The directory below which the artifacts are. -/
  outputRoot : Path
  standardsDoc : Path
  entries : List Catalog.Entry
  deriving DecidableEq

namespace Catalog

/-- The first entry whose file name the given name ends with. -/
def entryFor? (catalog : Catalog) (name : String) : Option Entry :=
  catalog.entries.find? fun entry => Text.endsWith name entry.fileName

/-- The entry for the last name of a path. Names that are no text belong to no entry. -/
def entryForPath? (catalog : Catalog) (path : Path) : Option Entry :=
  (path.fileName?.bind Text.ofBytes?).bind catalog.entryFor?

/-- The paths that belong to an entry, with it. -/
def matched (catalog : Catalog) (files : List Path) : List (Path × Entry) :=
  files.filterMap fun path => (catalog.entryForPath? path).map (path, ·)

end Catalog

end OutlineLint

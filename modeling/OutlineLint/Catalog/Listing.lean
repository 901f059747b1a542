import OutlineLint.Catalog.Basic
import OutlineLint.Json.Printer
import OutlineLint.Path.Normal

/-!
# Showing catalogs

A catalog is shown as plain text, with paths in normal form, or as JSON, with paths as they are
spelled.
-/

namespace OutlineLint.Catalog

/-! ### Plain text -/

/-- The lines for an entry. -/
def Entry.plainLines (entry : Entry) : List String :=
  [s!"kind: {entry.kind} ({entry.fileName})",
    s!"  template: {entry.template.display}",
    "  agent: " ++ (entry.agent.map Path.display).getD "-",
    s!"  anchor: {entry.schema.anchor}"] ++
    entry.schema.required.map (fun heading => s!"  required: {heading}") ++
    entry.schema.optional.map (fun heading => s!"  optional: {heading}")

/-- The catalog as plain text. -/
def plain (catalog : Catalog) : String :=
  "\n".intercalate
    ([s!"output_root: {catalog.outputRoot.display}",
      s!"standards_doc: {catalog.standardsDoc.display}"] ++
      catalog.entries.flatMap Entry.plainLines)

/-! ### JSON -/

/-- A path as it is spelled. -/
def pathJson (path : Path) : Json := .string path.text

def schemaJson (schema : Schema) : Json :=
  .object [("required", .strings schema.required), ("optional", .strings schema.optional)]

def Entry.toJson (entry : Entry) : Json :=
  .object [("kind", .string entry.kind.name), ("file_name", .string entry.fileName),
    ("template", pathJson entry.template), ("agent", .ofOption pathJson entry.agent),
    ("schema", schemaJson entry.schema)]

def toJson (catalog : Catalog) : Json :=
  .object [("output_root", pathJson catalog.outputRoot),
    ("standards_doc", pathJson catalog.standardsDoc),
    ("artifacts", .array (catalog.entries.map Entry.toJson))]

end OutlineLint.Catalog

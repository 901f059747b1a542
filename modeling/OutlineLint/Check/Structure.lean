import OutlineLint.Catalog.Basic
import OutlineLint.Comparison
import OutlineLint.Outline.Extract
import OutlineLint.Path.Normal
import OutlineLint.Policy

/-!
# Checking the structure of documents

The outline of a template or an artifact is compared with the schema of its entry; each deviation
that the policy reports becomes a diagnostic at the document, with a hint.
-/

namespace OutlineLint.Check

/-- Headings in a message. -/
def listing (headings : List String) : String := ", ".intercalate headings

/-- What a diagnostic says about a deviation of the document at `path`. -/
def describe (path : String) (role : Role) : Deviation → String
  | .missing headings =>
    s!"{role.label} {path} is missing required H2 headings: {listing headings}"
  | .outOfOrder before after position =>
    match role with
    | .template =>
      s!"Template {path} has headings out of order. Expected '{before}' at position {position}, found '{after}'."
    | .artifact _ =>
      s!"Artifact {path} has required headings out of order: '{before}' should come before '{after}'."
  | .extra headings =>
    s!"{role.label} {path} contains extra H2 headings: {listing headings}"
  | .optionalMisplaced heading anchor =>
    s!"{role.label} {path} has optional heading '{heading}' before anchor '{anchor}' (consider moving it)."

/-- How to mend a deviation from the template at the given path. -/
def hint (template : String) : Deviation → String
  | .missing _ => s!"copy the missing sections from {template}"
  | .outOfOrder .. => s!"reorder sections to follow {template}"
  | .extra _ => "move supplementary content under an existing section or an H3"
  | .optionalMisplaced _ anchor => s!"optional sections belong after '{anchor}'"

/-- The diagnostic of a deviation, unless the policy does not report it. -/
def diagnostic? (path template : String) (role : Role) (deviation : Deviation) :
    Option Diagnostic :=
  (deviation.severity? role).map fun severity =>
    ((Diagnostic.ofCode deviation.code severity (describe path role deviation)).atFile path).withHint
      (hint template deviation)

/-- The diagnostics of a template with the given text. -/
def template (entry : Catalog.Entry) (text : String) : List Diagnostic :=
  let path := entry.template.display
  (Comparison.template entry.schema (Outline.headings text)).filterMap
    (diagnostic? path path .template)

/-- The diagnostics of an artifact with the given text. -/
def artifact (entry : Catalog.Entry) (strictness : Strictness) (path : Path) (text : String) :
    List Diagnostic :=
  (Comparison.artifact entry.schema (Outline.headings text)).filterMap
    (diagnostic? path.display entry.template.display (.artifact strictness))

end OutlineLint.Check

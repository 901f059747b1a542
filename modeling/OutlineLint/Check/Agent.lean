import OutlineLint.Catalog.Basic
import OutlineLint.Diagnostic
import OutlineLint.Outline.Extract
import OutlineLint.Path.Normal

/-!
# Checking agent documents

The document of an agent has to refer to the template, by the way that leads there from the
directory of the document. It must not repeat the template: a fenced block that holds several of the
required headings is taken for a copy of it.
-/

namespace OutlineLint.Check

/-! ### The reference to the template -/

/-- What the document of an agent has to contain. -/
def expectedLink (agent template : Path) : String := agent.parent.relativeTo template

/-- The diagnostic of a document that does not refer to the template. -/
def agentLink? (agent : Path) (text : String) (template : Path) : Option Diagnostic :=
  let expected := expectedLink agent template
  if Text.contains text expected then none
  else
    let path := agent.display
    some (((Diagnostic.error .referenceMissing
      s!"Agent {path} must reference template {expected}").atFile path).withHint
        s!"link `{expected}` instead of restating its structure")

/-! ### Copies of the template -/

/-- The number of required headings that make a block a copy. -/
def skeletonThreshold : Nat := 3

/-- The number of required headings in a block. -/
def headingCount (schema : Schema) (block : String) : Nat :=
  schema.required.countP (Text.contains block)

/-- The number of required headings in the first block that is a copy. -/
def skeleton? (schema : Schema) (text : String) : Option Nat :=
  ((Outline.blocks text).map (headingCount schema)).find? (skeletonThreshold ≤ ·)

/-- The diagnostic of a document that repeats the template. -/
def embeddedSkeleton? (agent : Path) (text : String) (entry : Catalog.Entry) :
    Option Diagnostic :=
  (skeleton? entry.schema text).map fun count =>
    let path := agent.display
    ((Diagnostic.error .skeletonEmbedded
      s!"Agent {path} appears to embed a {entry.fileName} skeleton (found {count} headings in a fenced block).").atFile
        path).withHint s!"reference {entry.template.display} instead of copying its headings"

end OutlineLint.Check

import OutlineLint.Diagnostic
import OutlineLint.Path.Normal
import OutlineLint.Text.Search

/-!
# Checking the standards document

The standards document has to be there and to speak of templates. Neither is ever an error.
-/

namespace OutlineLint.Check

/-- A standards document speaks of templates if it holds one of these. -/
def standardsMarkers : List String := ["template", ".template.md"]

/-- The diagnostic of the standards document with the given text, `none` if there is no document. -/
def standards? (path : Path) (text : Option String) : Option Diagnostic :=
  let shown := path.display
  match text with
  | none =>
    some ((Diagnostic.warning .resourceMissing s!"Standards file not found: {shown}").atFile shown)
  | some text =>
    if standardsMarkers.any (Text.contains text) then none
    else
      some (((Diagnostic.warning .standardsDriftHeuristic
        s!"Standards file {shown} should reference template-first approach").atFile shown).withHint
          "point authors at the .template.md files")

end OutlineLint.Check

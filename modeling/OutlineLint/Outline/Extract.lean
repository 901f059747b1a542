import OutlineLint.Outline.Fence
import OutlineLint.Text.Blank

/-!
# Headings and blocks of a document

The outline of a document is the list of its level-2 headings: the lines of ordinary text that
start with `## `, without the blanks at their ends. Its fenced blocks are the bodies between an
opener and its closer.
-/

namespace OutlineLint.Outline

/-! ### Headings -/

/-- What a level-2 heading starts with. -/
def headingMarker : List Char := ['#', '#', ' ']

/-- The heading that a line of text is, if it is one. -/
def heading? (line : List Char) : Option String :=
  let trimmed := Text.trimEnd line
  if headingMarker.isPrefixOf trimmed then some (String.ofList trimmed) else none

/-- The heading in a classified line: only ordinary text can hold one. -/
def Line.heading? : Line → Option String
  | .text content => Outline.heading? content
  | .opener | .body _ | .closer => none

/-- The level-2 headings of a document, in order. -/
def headings (text : String) : List String :=
  (classify text.toList).filterMap Line.heading?

/-! ### Blocks -/

/-- The bodies of the blocks among classified lines. The first argument holds the lines since the
last opener, latest first. -/
def blocksFrom (current : List (List Char)) : List Line → List (List Char)
  | [] => []
  | .opener :: rest => blocksFrom [] rest
  | .body content :: rest => blocksFrom (content :: current) rest
  | .closer :: rest => Text.unlines current.reverse :: blocksFrom current rest
  | .text _ :: rest => blocksFrom current rest

/-- The bodies of the fenced blocks of a document, in order. -/
def blocks (text : String) : List String :=
  (blocksFrom [] (classify text.toList)).map String.ofList

end OutlineLint.Outline

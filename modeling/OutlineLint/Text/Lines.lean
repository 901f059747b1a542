/-!
# Lines and line endings

A text is cut into lines at `\n`; a carriage return right before the cut is not part of the line.
Line endings are unified in two passes over the whole text: first `\r\n`, then what is left of `\r`.
-/

namespace OutlineLint.Text

/-- The line without a single carriage return at its end. -/
def dropReturn (line : List Char) : List Char :=
  if line.getLast? = some '\r' then line.dropLast else line

/-- The lines of a text: a text with `n` line feeds has `n + 1` lines. -/
def lines (cs : List Char) : List (List Char) :=
  (cs.splitOn '\n').map dropReturn

/-- Writes lines with a line feed between neighbours. -/
def unlines (ls : List (List Char)) : List Char :=
  ['\n'].intercalate ls

/-! ### Unifying line endings -/

/-- Replaces each `\r\n` by `\n`. -/
def joinReturnFeed : List Char → List Char
  | '\r' :: '\n' :: cs => '\n' :: joinReturnFeed cs
  | c :: cs => c :: joinReturnFeed cs
  | [] => []

/-- Replaces each `\r` by `\n`. -/
def returnsToFeeds (cs : List Char) : List Char :=
  cs.map fun c => if c = '\r' then '\n' else c

/-- Every line ending, be it `\r\n`, `\r` or `\n`, becomes `\n`. -/
def unifyLineEndings (s : String) : String :=
  String.ofList (returnsToFeeds (joinReturnFeed s.toList))

end OutlineLint.Text

import OutlineLint.Text.Lines

/-!
# Fenced blocks

A line of three or more backticks, with no backtick after them, opens a fence; the first later line
that starts with the same number of backticks closes it. The lines between are the body of a block.
An opener that nothing closes is ordinary text, and so is whatever follows it, as far as no other
fence takes it.

Lines are classified by scanning: a scan that ends inside a fence is cut back to the opener of that
fence, the opener becomes text, and scanning starts again on the line after it (`Progress.step`).
Every step moves the start forward, so one more step than there are lines is always enough.
-/

namespace OutlineLint.Outline

/-- The part a line plays. An opener and a closer carry no content of their own. -/
inductive Line
  | text (content : List Char)
  | opener
  | body (content : List Char)
  | closer
  deriving DecidableEq, Repr

/-! ### Fence lines -/

/-- The backtick. -/
def backtick : Char := '\x60'

/-- The number of backticks at the start of a line. -/
def leadingBackticks (line : List Char) : Nat :=
  (line.takeWhile (· == backtick)).length

/-- The number of backticks by which a line opens a fence, if it does. -/
def fenceRun? (line : List Char) : Option Nat :=
  let run := leadingBackticks line
  if run < 3 || (line.drop run).contains backtick then none else some run

/-- Whether a line closes a fence opened by `run` backticks. -/
def closes (run : Nat) (line : List Char) : Bool :=
  (List.replicate run backtick).isPrefixOf line

/-! ### One scan -/

/-- A fence that is open: the index of its opener and the number of its backticks. -/
structure OpenFence where
  opener : Nat
  run : Nat
  deriving DecidableEq, Repr

/-- The part that the line with the given index plays, and the fence that is open after it. -/
def readLine (index : Nat) (fence : Option OpenFence) (line : List Char) :
    Line × Option OpenFence :=
  match fence with
  | none =>
    match fenceRun? line with
    | some run => (.opener, some ⟨index, run⟩)
    | none => (.text line, none)
  | some opened => if closes opened.run line then (.closer, none) else (.body line, some opened)

/-- Classifies lines from left to right, and gives the fence that is still open at the end. -/
def scan (index : Nat) (fence : Option OpenFence) :
    List (List Char) → List Line × Option OpenFence
  | [] => ([], fence)
  | line :: rest =>
    let (part, after) := readLine index fence line
    let (parts, last) := scan (index + 1) after rest
    (part :: parts, last)

/-! ### Scanning again after an opener that nothing closes -/

/-- The lines classified for good, and the line at which the next scan starts. -/
structure Progress where
  settled : List Line
  start : Nat
  deriving DecidableEq, Repr

/-- Nothing is classified yet. -/
def Progress.initial : Progress := ⟨[], 0⟩

/-- The outcome of one step: more to do, or the finished classification. -/
inductive Step
  | again (progress : Progress)
  | done (parts : List Line)
  deriving DecidableEq, Repr

/-- Scans from the start of the progress to the end. If a fence is still open there, only the lines
before its opener are kept; the opener is text, and the next scan starts after it. -/
def Progress.step (lines : List (List Char)) (progress : Progress) : Step :=
  let (parts, last) := scan 0 none (lines.drop progress.start)
  let all := progress.settled ++ parts
  match last with
  | none => .done all
  | some fence =>
    let opener := progress.start + fence.opener
    match lines[opener]? with
    | none => .done all
    | some line => .again ⟨all.take opener ++ [.text line], opener + 1⟩

/-- Repeats the step, at most as often as the first argument says. -/
def classifyFrom (lines : List (List Char)) : Nat → Progress → List Line
  | 0, progress => progress.settled
  | steps + 1, progress =>
    match progress.step lines with
    | .again next => classifyFrom lines steps next
    | .done parts => parts

/-- The part each line plays. -/
def classifyLines (lines : List (List Char)) : List Line :=
  classifyFrom lines (lines.length + 1) .initial

/-- The part each line of a text plays. -/
def classify (text : List Char) : List Line :=
  classifyLines (Text.lines text)

end OutlineLint.Outline

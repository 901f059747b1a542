import Mathlib.Data.List.Forall2
import OutlineLint.Proofs.Outline.Classification
import OutlineLint.Proofs.Text.Utf8

/-!
# Scanning ends and stays within bounds

Scanning again after an opener that nothing closes takes the lines from an index on, looks up the
line of an opener and cuts a line after its backticks, which are counted as bytes. `Checked.step`
fails where one of these places does not exist, and `Runs` repeats it without any bound on the
number of steps.

What carries the argument is that exactly the lines before the start are classified, each one as
itself (`Aligned`): a step keeps this and moves the start forward (`Aligned.again`). So every run
takes at most one scan more than there are lines, no step of it fails, and it ends with the
classification of the document (`classify_in_bounds`).
-/

namespace OutlineLint.Outline

variable {lines : List (List Char)} {progress next : Progress} {states : List Progress}
  {parts : List Line}

/-! ### Places that may not exist -/

/-- A place that is asked for and does not exist. -/
inductive OutOfBounds
  | linesFrom (start : Nat)
  | lineAt (index : Nat)
  | bytesFrom (offset : Nat)
  deriving DecidableEq, Repr

namespace Checked

/-- The lines from an index on, which must not lie beyond the end. -/
def linesFrom (lines : List (List Char)) (start : Nat) : Except OutOfBounds (List (List Char)) :=
  if start ≤ lines.length then .ok (lines.drop start) else .error (.linesFrom start)

/-- The line at an index. -/
def lineAt (lines : List (List Char)) (index : Nat) : Except OutOfBounds (List Char) :=
  match lines[index]? with
  | some line => .ok line
  | none => .error (.lineAt index)

/-- What is left of a line after as many bytes of its UTF-8 form, if a character ends there. -/
def dropBytes? (offset : Nat) : List Char → Option (List Char)
  | [] => if offset = 0 then some [] else none
  | c :: line =>
    if offset = 0 then some (c :: line)
    else if c.utf8Size ≤ offset then dropBytes? (offset - c.utf8Size) line
    else none

/-- The line from a byte of its UTF-8 form on, which must be the end or start a character. -/
def bytesFrom (line : List Char) (offset : Nat) : Except OutOfBounds (List Char) :=
  match dropBytes? offset line with
  | some rest => .ok rest
  | none => .error (.bytesFrom offset)

/-- The number of bytes at the start of a line that are backticks. -/
def backtickBytes (line : List Char) : Nat :=
  ((Text.bytes (String.ofList line)).takeWhile (· == 0x60)).length

/-! ### A step that may fail -/

/-- The number of backticks by which a line opens a fence. What comes after them is only looked at
if there are enough. -/
def fenceRun? (line : List Char) : Except OutOfBounds (Option Nat) :=
  let run := backtickBytes line
  if run < 3 then .ok none
  else do
    let info ← bytesFrom line run
    return if info.contains backtick then none else some run

/-- The part that a line plays, and the fence that is open after it. -/
def readLine (index : Nat) (fence : Option OpenFence) (line : List Char) :
    Except OutOfBounds (Line × Option OpenFence) :=
  match fence with
  | none => do
    match ← fenceRun? line with
    | some run => return (.opener, some ⟨index, run⟩)
    | none => return (.text line, none)
  | some opened => .ok (if closes opened.run line then (.closer, none) else (.body line, some opened))

/-- Classifies lines from left to right, and gives the fence that is still open at the end. -/
def scan (index : Nat) (fence : Option OpenFence) :
    List (List Char) → Except OutOfBounds (List Line × Option OpenFence)
  | [] => .ok ([], fence)
  | line :: rest => do
    let (part, after) ← readLine index fence line
    let (parts, last) ← scan (index + 1) after rest
    return (part :: parts, last)

/-- Scans the lines from the start on, and cuts back to an opener that nothing closes. -/
def step (lines : List (List Char)) (progress : Progress) : Except OutOfBounds Step := do
  let rest ← linesFrom lines progress.start
  let (parts, last) ← scan 0 none rest
  let all := progress.settled ++ parts
  match last with
  | none => return .done all
  | some fence =>
    let opener := progress.start + fence.opener
    let line ← lineAt lines opener
    return .again ⟨all.take opener ++ [.text line], opener + 1⟩

/-! ### One scan does not fail -/

lemma length_bytes_cons (c : Char) (line : List Char) :
    (Text.bytes (String.ofList (c :: line))).length =
      c.utf8Size + (Text.bytes (String.ofList line)).length := by
  simp [Text.bytes_eq_flatMap]

lemma length_bytes_replicate (run : Nat) :
    (Text.bytes (String.ofList (List.replicate run backtick))).length = run := by
  induction run with
  | zero => simp [Text.bytes_eq_flatMap]
  | succ run ih =>
    have hsize : backtick.utf8Size = 1 := rfl
    rw [List.replicate_succ, length_bytes_cons, ih, hsize, Nat.add_comm]

/-- A line can be cut where the UTF-8 form of some of its characters ends, and nowhere else. -/
lemma dropBytes?_eq_some_iff {offset : Nat} {line rest : List Char} :
    dropBytes? offset line = some rest ↔
      ∃ front, line = front ++ rest ∧ (Text.bytes (String.ofList front)).length = offset := by
  induction line generalizing offset with
  | nil =>
    rw [dropBytes?]
    constructor
    · intro h
      split at h
      · next hoffset => exact ⟨[], Option.some.inj h, hoffset.symm⟩
      · contradiction
    · rintro ⟨front, hline, rfl⟩
      obtain ⟨rfl, rfl⟩ := List.append_eq_nil_iff.mp hline.symm
      rfl
  | cons c line ih =>
    constructor
    · intro h
      rw [dropBytes?] at h
      split at h
      · next hoffset => exact ⟨[], Option.some.inj h, hoffset.symm⟩
      · split at h
        · next hsize =>
          obtain ⟨front, rfl, hlength⟩ := ih.mp h
          exact ⟨c :: front, rfl, by rw [length_bytes_cons]; omega⟩
        · contradiction
    · rintro ⟨front, hline, rfl⟩
      cases front with
      | nil =>
        rw [List.nil_append] at hline
        rw [← hline]
        rfl
      | cons d front =>
        obtain ⟨rfl, rfl⟩ := List.cons.inj hline
        have hsize := Char.utf8Size_pos c
        rw [length_bytes_cons, dropBytes?, if_neg (by omega), if_pos (Nat.le_add_right _ _),
          Nat.add_sub_cancel_left]
        exact ih.mpr ⟨front, rfl, rfl⟩

lemma backtickBytes_eq (line : List Char) : backtickBytes line = leadingBackticks line := by
  have hform : String.utf8EncodeChar backtick = [0x60] := rfl
  rw [backtickBytes, leadingBackticks, Text.bytes_eq_flatMap, String.toList_ofList]
  induction line with
  | nil => rfl
  | cons c line ih =>
    rw [List.flatMap_cons]
    by_cases hc : c = backtick
    · simp [hc, hform, ih]
    · -- no other character has a form that starts with the byte of a backtick
      obtain ⟨b, more, hb⟩ := List.exists_cons_of_ne_nil (String.utf8EncodeChar_ne_nil (c := c))
      have hne : b ≠ 0x60 := by
        rintro rfl
        exact hc (Text.eq_of_mem_utf8EncodeChar hform (hb ▸ List.mem_cons_self))
      simp [hb, hc, hne]

lemma bytesFrom_eq (front rest : List Char) :
    bytesFrom (front ++ rest) (Text.bytes (String.ofList front)).length = .ok rest := by
  rw [bytesFrom, dropBytes?_eq_some_iff.mpr ⟨front, rfl, rfl⟩]

lemma fenceRun?_eq (line : List Char) : fenceRun? line = .ok (Outline.fenceRun? line) := by
  have hinfo := bytesFrom_eq (List.replicate (leadingBackticks line) backtick)
    (line.drop (leadingBackticks line))
  rw [length_bytes_replicate, replicate_leadingBackticks_append] at hinfo
  rw [fenceRun?, Outline.fenceRun?, backtickBytes_eq, hinfo]
  by_cases hrun : leadingBackticks line < 3
  · simp [hrun]
  · simp only [hrun]
    rfl

lemma readLine_eq (index : Nat) (fence : Option OpenFence) (line : List Char) :
    readLine index fence line = .ok (Outline.readLine index fence line) := by
  cases fence with
  | none =>
    rw [readLine, fenceRun?_eq, Outline.readLine]
    cases Outline.fenceRun? line <;> rfl
  | some opened => rfl

lemma scan_eq (index : Nat) (fence : Option OpenFence) (lines : List (List Char)) :
    scan index fence lines = .ok (Outline.scan index fence lines) := by
  induction lines generalizing index fence with
  | nil => rfl
  | cons line rest ih =>
    rw [scan, readLine_eq, Outline.scan]
    simp only [bind, Except.bind]
    rw [ih]
    rfl

end Checked

/-! ### Lines and the parts they play -/

/-- The text that the part carries. -/
def Line.content? : Line → Option (List Char)
  | .text content | .body content => some content
  | .opener | .closer => none

/-- The line can play the part: if the part carries a text, it is that of the line. -/
inductive Plays (line : List Char) : Line → Prop
  | text : Plays line (.text line)
  | opener : Plays line .opener
  | body : Plays line (.body line)
  | closer : Plays line .closer

lemma Plays.eq_of_content? {line content : List Char} {part : Line} (h : Plays line part)
    (hcontent : part.content? = some content) : line = content := by
  cases h with
  | text | body => exact Option.some.inj hcontent
  | opener | closer => contradiction

lemma plays_piece (piece : Piece) : List.Forall₂ Plays piece.lines piece.parts := by
  cases piece with
  | text line => exact .cons .text .nil
  | block opener interior closer =>
    have hinterior : List.Forall₂ Plays interior (interior.map .body) :=
      List.forall₂_map_right_iff.mpr (List.forall₂_same.mpr fun _ _ => .body)
    exact .cons .opener (List.rel_append hinterior (.cons .closer .nil))

lemma plays_partsOf (pieces : List Piece) :
    List.Forall₂ Plays (linesOf pieces) (partsOf pieces) := by
  induction pieces with
  | nil => exact .nil
  | cons piece pieces ih => exact List.rel_append (plays_piece piece) ih

lemma getElem?_of_plays (h : List.Forall₂ Plays lines parts) {i : Nat} {content : List Char}
    (hcontent : parts[i]?.bind Line.content? = some content) : lines[i]? = some content := by
  induction h generalizing i with
  | nil => simp at hcontent
  | cons hplays _ ih =>
    cases i with
    | zero => exact congrArg some (hplays.eq_of_content? hcontent)
    | succ i => exact ih hcontent

/-- If a scan ends inside a fence, its opener is one of the lines and classified as such. -/
lemma opener_of_scan {fence : OpenFence} (h : scan 0 none lines = (parts, some fence)) :
    (∃ line, lines[fence.opener]? = some line) ∧ parts[fence.opener]? = some .opener := by
  have hscan := scanned_scan 0 lines
  rw [h] at hscan
  cases hscan with
  | dangling pieces hpieces hopener hrest => simp

/-! ### What a step keeps -/

/-- Exactly the lines before the start are classified, each one as itself. -/
structure Aligned (lines : List (List Char)) (progress : Progress) : Prop where
  start_le : progress.start ≤ lines.length
  plays : List.Forall₂ Plays (lines.take progress.start) progress.settled

namespace Aligned

lemma initial (lines : List (List Char)) : Aligned lines .initial :=
  ⟨Nat.zero_le _, .nil⟩

lemma length_settled (h : Aligned lines progress) : progress.settled.length = progress.start := by
  rw [← h.plays.length_eq, List.length_take, Nat.min_eq_left h.start_le]

/-- The opener of a fence that is open at the end is a line, and it is classified. -/
lemma opener_mem (h : Aligned lines progress) {fence : OpenFence}
    (hscan : scan 0 none (lines.drop progress.start) = (parts, some fence)) :
    (∃ line, lines[progress.start + fence.opener]? = some line) ∧
      (progress.settled ++ parts)[progress.start + fence.opener]? = some .opener := by
  obtain ⟨hline, hpart⟩ := opener_of_scan hscan
  rw [List.getElem?_drop] at hline
  refine ⟨hline, ?_⟩
  rw [← h.length_settled, List.getElem?_append_right (Nat.le_add_right _ _),
    Nat.add_sub_cancel_left, hpart]

/-- None of the places that a step needs is out of bounds. -/
lemma checked_step (h : Aligned lines progress) :
    Checked.step lines progress = .ok (progress.step lines) := by
  rw [Checked.step, Progress.step, Checked.linesFrom, if_pos h.start_le]
  simp only [bind, Except.bind, Checked.scan_eq]
  cases hscan : scan 0 none (lines.drop progress.start) with
  | mk parts last =>
    cases last with
    | none => rfl
    | some fence =>
      obtain ⟨⟨line, hline⟩, -⟩ := h.opener_mem hscan
      have hat : Checked.lineAt lines (progress.start + fence.opener) = .ok line := by
        rw [Checked.lineAt, hline]
      dsimp only
      rw [hat, hline]
      rfl

/-- A step that goes on keeps this, and the next scan starts further on. -/
lemma again (h : Aligned lines progress)
    (hstep : Checked.step lines progress = .ok (.again next)) :
    Aligned lines next ∧ progress.start < next.start := by
  rw [h.checked_step, Except.ok.injEq] at hstep
  have hrule := hstep ▸ Progress.StepRule.of_step lines h.length_settled
  cases hrule with
  | @again pieces run opener rest hlines hpieces hopener hrest =>
    have htake : lines.take (progress.start + (linesOf pieces).length + 1) =
        lines.take progress.start ++ linesOf pieces ++ [opener] := by
      rw [Nat.add_assoc, List.take_add, hlines, List.take_length_add_append, List.append_assoc]
      rfl
    have hlength := congrArg List.length hlines
    simp only [List.length_drop, List.length_append, List.length_cons] at hlength
    refine ⟨⟨?_, ?_⟩, ?_⟩
    · show progress.start + (linesOf pieces).length + 1 ≤ lines.length
      omega
    · rw [htake]
      exact List.rel_append (List.rel_append h.plays (plays_partsOf pieces)) (.cons .text .nil)
    · show progress.start < progress.start + (linesOf pieces).length + 1
      omega

lemma done (h : Aligned lines progress)
    (hstep : Checked.step lines progress = .ok (.done parts)) :
    List.Forall₂ Plays lines parts := by
  rw [h.checked_step, Except.ok.injEq] at hstep
  have hrule := hstep ▸ Progress.StepRule.of_step lines h.length_settled
  cases hrule with
  | @done pieces hlines hpieces =>
    rw [← List.take_append_drop progress.start lines, hlines]
    exact List.rel_append h.plays (plays_partsOf pieces)

end Aligned

/-! ### Runs -/

/-- Steps from a progress on, none of which fails: the progress before each scan, and the parts of
all lines at the end. -/
inductive Runs (lines : List (List Char)) : Progress → List Progress → List Line → Prop
  | done {progress : Progress} {parts : List Line}
      (hstep : Checked.step lines progress = .ok (.done parts)) :
      Runs lines progress [progress] parts
  | again {progress next : Progress} {states : List Progress} {parts : List Line}
      (hstep : Checked.step lines progress = .ok (.again next))
      (hrest : Runs lines next states parts) :
      Runs lines progress (progress :: states) parts

namespace Runs

lemma unique {states' : List Progress} {parts' : List Line} (h : Runs lines progress states parts)
    (h' : Runs lines progress states' parts') : states = states' ∧ parts = parts' := by
  induction h generalizing states' parts' with
  | done hstep =>
    cases h' with
    | done hstep' =>
      rw [hstep, Except.ok.injEq, Step.done.injEq] at hstep'
      exact ⟨rfl, hstep'⟩
    | again hstep' hrest' => simp [hstep] at hstep'
  | again hstep hrest ih =>
    cases h' with
    | done hstep' => simp [hstep] at hstep'
    | again hstep' hrest' =>
      rw [hstep, Except.ok.injEq, Step.again.injEq] at hstep'
      obtain ⟨rfl, rfl⟩ := ih (hstep' ▸ hrest')
      exact ⟨rfl, rfl⟩

lemma aligned (h : Runs lines progress states parts) (haligned : Aligned lines progress) :
    ∀ state ∈ states, Aligned lines state := by
  induction h with
  | done hstep => simpa using haligned
  | again hstep hrest ih =>
    exact List.forall_mem_cons.mpr ⟨haligned, ih (haligned.again hstep).1⟩

/-- Each scan starts after the one before it, the last one after all lines at the latest. -/
lemma length_le (h : Runs lines progress states parts) (haligned : Aligned lines progress) :
    states.length + progress.start ≤ lines.length + 1 := by
  induction h with
  | done hstep =>
    have hle := haligned.start_le
    rw [List.length_singleton]
    omega
  | again hstep hrest ih =>
    obtain ⟨hnext, hlt⟩ := haligned.again hstep
    have hle := ih hnext
    rw [List.length_cons]
    omega

lemma plays (h : Runs lines progress states parts) (haligned : Aligned lines progress) :
    List.Forall₂ Plays lines parts := by
  induction h with
  | done hstep => exact haligned.done hstep
  | again hstep hrest ih => exact ih (haligned.again hstep).1

/-- Repeating the step often enough is a run. -/
lemma exists_of_classifyFrom (steps : Nat) (haligned : Aligned lines progress)
    (hsteps : lines.length < steps + progress.start) :
    ∃ states, Runs lines progress states (classifyFrom lines steps progress) := by
  induction steps generalizing progress with
  | zero =>
    have hle := haligned.start_le
    omega
  | succ steps ih =>
    have hstep := haligned.checked_step
    rw [classifyFrom]
    cases hnext : progress.step lines with
    | done parts =>
      rw [hnext] at hstep
      exact ⟨[progress], .done hstep⟩
    | again next =>
      rw [hnext] at hstep
      obtain ⟨hkept, hlt⟩ := haligned.again hstep
      obtain ⟨states, hruns⟩ := ih hkept (by omega)
      exact ⟨progress :: states, .again hstep hruns⟩

end Runs

/-- What holds before each scan. -/
structure InBounds (lines : List (List Char)) (progress : Progress) : Prop where
  /-- The classified lines are those before the start. -/
  length_settled : progress.settled.length = progress.start
  start_le : progress.start ≤ lines.length
  /-- An opener that nothing closes is one of the lines, and classified. -/
  opener_mem : ∀ parts fence, scan 0 none (lines.drop progress.start) = (parts, some fence) →
    progress.start + fence.opener < lines.length ∧
      (progress.settled ++ parts)[progress.start + fence.opener]? = some .opener
  /-- No place that the step needs is out of bounds. -/
  checked_step : Checked.step lines progress = .ok (progress.step lines)

lemma Aligned.inBounds (h : Aligned lines progress) : InBounds lines progress where
  length_settled := h.length_settled
  start_le := h.start_le
  opener_mem := by
    intro parts fence hscan
    obtain ⟨⟨line, hline⟩, hpart⟩ := h.opener_mem hscan
    exact ⟨(List.getElem?_eq_some_iff.mp hline).1, hpart⟩
  checked_step := h.checked_step

/-- Scanning again and again, in which every index and every offset is checked and no number of
steps is set, ends after at most one scan more than there are lines, and in one way only: without
failing, and with the classification of the text. Before each scan exactly the lines before its
start are classified; the opener at which it is cut back is one of the lines. In the end each line
is classified, and where its part carries a text, it is that of this line. -/
theorem classify_in_bounds (text : String) :
    let lines := Text.lines text.toList
    ∃ states : List Progress,
      (∀ ss parts, Runs lines .initial ss parts ↔
        ss = states ∧ parts = classify text.toList) ∧
      states.length ≤ lines.length + 1 ∧
      (∀ state ∈ states, InBounds lines state) ∧
      (classify text.toList).length = lines.length ∧
      ∀ (i : Nat) (content : List Char),
        (classify text.toList)[i]?.bind Line.content? = some content →
          lines[i]? = some content := by
  intro lines
  have haligned := Aligned.initial lines
  obtain ⟨states, hruns⟩ : ∃ states, Runs lines .initial states (classify text.toList) :=
    Runs.exists_of_classifyFrom _ haligned (Nat.lt_succ_self _)
  have hplays := hruns.plays haligned
  refine ⟨states, ?unique, hruns.length_le haligned, ?before, hplays.length_eq.symm,
    fun i content => getElem?_of_plays hplays⟩
  case unique =>
    intro ss parts
    constructor
    · exact fun h => h.unique hruns
    · rintro ⟨rfl, rfl⟩
      exact hruns
  case before =>
    intro state hstate
    exact (hruns.aligned haligned state hstate).inBounds

end OutlineLint.Outline

import Mathlib.Control.Monad.Basic
import OutlineLint.FileTree.Repository
import OutlineLint.Lint
import OutlineLint.Proofs.Report.Escape

/-!
# Lines of workflow commands

The runner of a workflow reads the output line by line. The titles, messages and counts in it are
without line breaks, but the path of a diagnostic is printed as it is
(`Diagnostic.exists_command_eq`). So the output has one line for each diagnostic if and only if no
path has a line break in it (`Report.oneLineEach_iff_unbroken_paths`); what follows a line feed in a
path is a line of its own.
-/

namespace OutlineLint

open Text (Unbroken)

/-! ### Commands -/

/-- What the command for a diagnostic of the severity starts with. -/
def Severity.opening : Severity → String
  | .warning => "::warning "
  | .error => "::error "

lemma Severity.opening_eq (severity : Severity) :
    severity.opening = "::" ++ severity.name ++ " " := by
  cases severity <;> rfl

lemma Severity.unbroken_opening (severity : Severity) : Unbroken severity.opening.toList := by
  cases severity <;> decide

namespace Diagnostic

/-- The path in the command, as it is; nothing if there is none. -/
def shownPath (d : Diagnostic) : String := d.path.getD ""

/-- The properties of the command besides the path. -/
def otherProperties (d : Diagnostic) : List String :=
  (d.line.map fun line => "line=" ++ toString line).toList ++
    ["title=" ++ Report.escapeValue d.title]

variable {d : Diagnostic}

lemma properties_of_path {path : String} (h : d.path = some path) :
    d.properties = ("file=" ++ path) :: d.otherProperties := by
  rw [properties, h]
  rfl

lemma properties_of_no_path (h : d.path = none) : d.properties = d.otherProperties := by
  rw [properties, h]
  rfl

lemma unbroken_otherProperties : ∀ property ∈ d.otherProperties, Unbroken property.toList := by
  intro property h
  rcases List.mem_append.mp h with h | h
  · obtain ⟨line, -, rfl⟩ := Option.map_eq_some_iff.mp (Option.mem_toList.mp h)
    simp
  · obtain rfl := List.mem_singleton.mp h
    simp

/-- What the command holds after its path. -/
def rest (d : Diagnostic) : List Char :=
  (",".intercalate d.otherProperties ++ "::" ++ Report.escapeValue d.message).toList

lemma unbroken_rest : Unbroken d.rest := by
  have hproperties : ∀ property ∈ d.otherProperties.map String.toList, Unbroken property := by
    simpa using unbroken_otherProperties
  have hcomma : Unbroken [','] := by decide
  simp [rest, String.toList_intercalate, Text.unbroken_intercalate hcomma hproperties]

/-- A command is the path of the diagnostic, as it is, between two texts without line breaks. -/
lemma exists_command_eq (d : Diagnostic) :
    ∃ before after, d.command.toList =
        d.severity.opening.toList ++ before ++ d.shownPath.toList ++ after ∧
      Unbroken before ∧ Unbroken after := by
  cases hpath : d.path with
  | none =>
    refine ⟨[], d.rest, ?_, by simp, unbroken_rest⟩
    simp [command, properties_of_no_path hpath, shownPath, hpath, Severity.opening_eq, rest]
  | some path =>
    have hne : d.otherProperties ≠ [] := by simp [otherProperties]
    refine ⟨"file=".toList, ',' :: d.rest, ?_, by simp, by simp [unbroken_rest]⟩
    simp [command, properties_of_path hpath, shownPath, hpath, Severity.opening_eq, rest,
      String.intercalate_cons_of_ne_nil hne]

lemma opening_prefix_command (d : Diagnostic) :
    d.severity.opening.toList <+: d.command.toList := by
  obtain ⟨before, after, hcommand, -⟩ := d.exists_command_eq
  exact ⟨before ++ d.shownPath.toList ++ after, by simp [hcommand]⟩

/-- Of a line break, a command has as many as its path. -/
lemma count_command (d : Diagnostic) {c : Char} (hc : c = '\n' ∨ c = '\r') :
    d.command.toList.count c = d.shownPath.toList.count c := by
  obtain ⟨before, after, hcommand, hbefore, hafter⟩ := d.exists_command_eq
  have hnone {cs : List Char} (hcs : Unbroken cs) : cs.count c = 0 := by
    rcases hc with rfl | rfl
    · exact List.count_eq_zero.mpr hcs.1
    · exact List.count_eq_zero.mpr hcs.2
  simp [hcommand, hnone hbefore, hnone hafter, hnone d.severity.unbroken_opening]

end Diagnostic

namespace Report

variable {report : Report}

lemma unbroken_closingLines (report : Report) :
    ∀ line ∈ report.closingLines.map String.toList, Unbroken line := by
  have hverdict : Unbroken report.outcome.verdict.toList := by
    cases report.outcome <;> decide
  have hsummary : Unbroken report.summaryLine.toList := by
    have hstrictness : Unbroken report.strictness.name.toList := by
      cases report.strictness <;> decide
    have houtcome : Unbroken report.outcome.name.toList := by
      cases report.outcome <;> decide
    have hline : report.summaryLine =
        "summary: errors=" ++ toString report.summary.errors ++ " warnings=" ++
          toString report.summary.warnings ++ " artifacts=" ++
          toString report.summary.artifacts ++ " strictness=" ++ report.strictness.name ++
          " outcome=" ++ report.outcome.name := rfl
    simp [hline, hstrictness, houtcome]
  simp [closingLines, hverdict, hsummary]

lemma toList_workflow (report : Report) :
    report.workflow.toList =
      Text.unlines ((report.diagnostics.map fun d => d.command.toList) ++
        report.closingLines.map String.toList) := by
  simp [workflow, Text.unlines, String.toList_intercalate, Function.comp_def]

/-- The output as its reader sees it, line by line. -/
def outputLines (report : Report) : List (List Char) := Text.rawLines report.workflow.toList

/-- The output is the lines of the commands, and then the two closing lines. -/
lemma outputLines_eq (report : Report) :
    report.outputLines = (report.diagnostics.flatMap fun d => Text.rawLines d.command.toList) ++
      report.closingLines.map String.toList := by
  have hclosing := Text.flatMap_rawLines_of_not_mem fun line h =>
    (unbroken_closingLines report line h).1
  rw [outputLines, toList_workflow, Text.rawLines_unlines_eq_flatMap (by simp [closingLines]),
    List.flatMap_append, hclosing, List.flatMap_map]

/-- The paths of the diagnostics, one after the other. -/
def shownPaths (report : Report) : List Char :=
  report.diagnostics.flatMap fun d => d.shownPath.toList

/-- There are as many lines besides one for each diagnostic and the two closing lines as there are
line feeds in the paths. -/
lemma length_outputLines (report : Report) :
    report.outputLines.length = report.diagnostics.length + 2 + report.shownPaths.count '\n' := by
  have hlength (d : Diagnostic) :
      (Text.rawLines d.command.toList).length = d.shownPath.toList.count '\n' + 1 := by
    rw [Text.length_rawLines, d.count_command (.inl rfl)]
  have hcommands (ds : List Diagnostic) :
      (ds.flatMap fun d => Text.rawLines d.command.toList).length =
        ds.length + (ds.flatMap fun d => d.shownPath.toList).count '\n' := by
    induction ds with
    | nil => rfl
    | cons d ds ih =>
      simp only [List.flatMap_cons, List.length_append, List.count_append, List.length_cons,
        hlength, ih]
      omega
  have hclosing : (report.closingLines.map String.toList).length = 2 := rfl
  rw [outputLines_eq, List.length_append, hcommands, hclosing, shownPaths]
  omega

lemma return_mem_workflow_iff :
    '\r' ∈ report.workflow.toList ↔ ∃ d ∈ report.diagnostics, '\r' ∈ d.shownPath.toList := by
  have hcommand (d : Diagnostic) : '\r' ∈ d.command.toList ↔ '\r' ∈ d.shownPath.toList := by
    rw [← List.count_pos_iff, d.count_command (.inr rfl), List.count_pos_iff]
  rw [toList_workflow, Text.mem_unlines_iff (by decide)]
  constructor
  · rintro ⟨line, hline, hreturn⟩
    rcases List.mem_append.mp hline with hline | hline
    · obtain ⟨d, hd, rfl⟩ := List.mem_map.mp hline
      exact ⟨d, hd, (hcommand d).mp hreturn⟩
    · exact absurd hreturn (unbroken_closingLines report line hline).2
  · rintro ⟨d, hd, hreturn⟩
    exact ⟨_, List.mem_append_left _ (List.mem_map_of_mem hd), (hcommand d).mpr hreturn⟩

/-- The output has a line for each diagnostic, which starts with its command, and then the two
closing lines; no line has a carriage return. -/
structure OneLineEach (report : Report) : Prop where
  length : report.outputLines.length = report.diagnostics.length + 2
  noReturn : '\r' ∉ report.workflow.toList
  opening : ∀ (i : Nat) (d : Diagnostic), report.diagnostics[i]? = some d →
    ∃ line, report.outputLines[i]? = some line ∧ d.severity.opening.toList <+: line
  closing : report.outputLines.drop report.diagnostics.length =
    report.closingLines.map String.toList

/-- If no path has a line feed, the lines are the commands and the closing lines. -/
lemma outputLines_eq_commands (h : ∀ d ∈ report.diagnostics, '\n' ∉ d.shownPath.toList) :
    report.outputLines = (report.diagnostics.map fun d => d.command.toList) ++
      report.closingLines.map String.toList := by
  have hcommands : ∀ line ∈ report.diagnostics.map fun d => d.command.toList, '\n' ∉ line := by
    intro line hline
    obtain ⟨d, hd, rfl⟩ := List.mem_map.mp hline
    rw [← List.count_eq_zero, d.count_command (.inl rfl), List.count_eq_zero]
    exact h d hd
  rw [outputLines_eq, ← Text.flatMap_rawLines_of_not_mem hcommands, List.flatMap_map]

lemma oneLineEach_of_unbroken_paths (h : ∀ d ∈ report.diagnostics, Unbroken d.shownPath.toList) :
    OneLineEach report := by
  have hlines := outputLines_eq_commands fun d hd => (h d hd).1
  refine ⟨?length, ?noReturn, ?opening, ?closing⟩
  case length =>
    rw [hlines]
    simp [closingLines]
  case noReturn =>
    rw [return_mem_workflow_iff]
    rintro ⟨d, hd, hreturn⟩
    exact (h d hd).2 hreturn
  case opening =>
    intro i d hd
    have hi : i < report.diagnostics.length := (List.getElem?_eq_some_iff.mp hd).1
    refine ⟨d.command.toList, ?_, d.opening_prefix_command⟩
    rw [hlines, List.getElem?_append_left (by simpa using hi), List.getElem?_map, hd]
    rfl
  case closing =>
    rw [hlines, List.drop_left' (by simp)]

lemma OneLineEach.unbroken_paths (h : OneLineEach report) :
    ∀ d ∈ report.diagnostics, Unbroken d.shownPath.toList := by
  have hfeeds : report.shownPaths.count '\n' = 0 := by
    have hlength := h.length
    rw [length_outputLines] at hlength
    omega
  intro d hd
  constructor
  · intro hfeed
    exact List.count_eq_zero.mp hfeeds (List.mem_flatMap.mpr ⟨d, hd, hfeed⟩)
  · intro hreturn
    exact h.noReturn (return_mem_workflow_iff.mpr ⟨d, hd, hreturn⟩)

/-- The output has one line for each diagnostic if and only if no path of a diagnostic has a line
break in it. In any case it ends with the two closing lines, and it has as many lines beyond those
of the diagnostics and these two as there are line feeds in the paths. -/
theorem oneLineEach_iff_unbroken_paths (report : Report) :
    (OneLineEach report ↔ ∀ d ∈ report.diagnostics, Unbroken d.shownPath.toList) ∧
    report.closingLines.map String.toList <:+ report.outputLines ∧
    report.outputLines.length =
      report.diagnostics.length + 2 + report.shownPaths.count '\n' := by
  refine ⟨⟨OneLineEach.unbroken_paths, oneLineEach_of_unbroken_paths⟩, ?_,
    length_outputLines report⟩
  rw [outputLines_eq]
  exact List.suffix_append _ _

/-- What follows the last line feed of a path starts a line of the output. -/
lemma exists_line_of_path {d : Diagnostic} (hd : d ∈ report.diagnostics)
    {before after : List Char} (hpath : d.shownPath.toList = before ++ '\n' :: after)
    (hafter : '\n' ∉ after) : ∃ line ∈ report.outputLines, after <+: line := by
  obtain ⟨start, rest, hcommand, -, hrest⟩ := d.exists_command_eq
  have hline : Text.rawLines d.command.toList =
      Text.rawLines (d.severity.opening.toList ++ start ++ before) ++ [after ++ rest] := by
    rw [← Text.rawLines_of_not_mem (by simp [hafter, hrest.1]), ← Text.rawLines_append_newline,
      hcommand, hpath]
    simp
  refine ⟨after ++ rest, ?_, List.prefix_append _ _⟩
  rw [outputLines_eq]
  exact List.mem_append_left _ (List.mem_flatMap.mpr ⟨d, hd, by simp [hline]⟩)

/-- The name of a file has a line feed and then what starts the command for an error. A run over the
tree with this file warns about it, and its output has a line that starts so. -/
theorem not_oneLineEach_forged :
    let schema : Schema := ⟨["## A"], [], by constructor <;> decide⟩
    let catalog : Catalog :=
      ⟨.ofString "out", .ofString "s.md",
        [⟨⟨"plan", by decide⟩, "plan.md", .ofString "t.md", none, schema⟩]⟩
    let file (name text : String) : Path.Name × FileTree.Node :=
      (Text.bytes name, .file (Text.bytes text))
    let tree : FileTree :=
      ⟨[file "t.md" "## A", file "s.md" ".template.md",
        (Text.bytes "out", .directory [file "a\n::error::b-plan.md" ""])], []⟩
    let report := lint (tree.repository (.ofString ".")) catalog .relaxed
    report.diagnostics.map (fun d => (d.severity, d.path)) =
        [(.warning, some "out/a\n::error::b-plan.md")] ∧
      (∃ line ∈ report.outputLines, "::error::b-plan.md".toList <+: line) ∧
      ¬ OneLineEach report := by
  intro schema catalog file tree report
  let root := Path.ofString "."
  let found := Path.ofString "out/a\n::error::b-plan.md"
  have hfiles : tree.filesFrom root catalog.outputRoot = .ok [found] := by
    have hvisited : (tree.visited (root.join catalog.outputRoot)).find?
        (fun directory => FileTree.maxPath < directory.bytes.length) = none := by
      decide +kernel
    have hwalk : (tree.walk (root.join catalog.outputRoot)).mapM (FileTree.seenFrom root) =
        .ok [found] := by
      decide +kernel
    have hordered : FileTree.ordered [found] = [found] := by
      simp [FileTree.ordered, FileTree.dropRepeated]
    simp only [FileTree.filesFrom, hvisited, hwalk, Except.map, hordered]
  -- sorting is not evaluated, so the list of files is put in for it
  have hlint : report =
      lint { tree.repository root with files := fun _ => .ok [found] } catalog .relaxed := by
    subst report
    simp only [lint, Lint.checkArtifacts, FileTree.repository]
    rw [hfiles]
    rfl
  have hdiagnostics : report.diagnostics.map (fun d => (d.severity, d.path)) =
      [(.warning, some "out/a\n::error::b-plan.md")] := by
    rw [hlint]
    decide +kernel
  obtain ⟨d, hreport, hd⟩ := List.map_eq_singleton_iff.mp hdiagnostics
  have hpath : d.shownPath.toList = "out/a".toList ++ '\n' :: "::error::b-plan.md".toList := by
    rw [Diagnostic.shownPath, (Prod.mk.inj hd).2]
    decide
  refine ⟨hdiagnostics, ?_, fun h => ?_⟩
  · exact exists_line_of_path (hreport ▸ List.mem_singleton_self d) hpath (by decide)
  · have hlength := h.length
    rw [length_outputLines, shownPaths, hreport] at hlength
    simp [hpath] at hlength

end Report

end OutlineLint

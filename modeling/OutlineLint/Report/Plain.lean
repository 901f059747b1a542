import OutlineLint.Report.Basic

/-!
# Reports as plain text

A line for each diagnostic, with its hint on a line of its own, then the counts and the verdict.
-/

namespace OutlineLint

/-- Where a diagnostic is, after its message. A line without a path is not shown. -/
def Diagnostic.location (d : Diagnostic) : String :=
  match d.path, d.line with
  | some path, some line => s!" ({path}:{line})"
  | some path, none => s!" ({path})"
  | none, _ => ""

/-- The lines of a diagnostic. -/
def Diagnostic.plainLines (d : Diagnostic) : List String :=
  s!"[{d.severity.name}] {d.title}: {d.message}{d.location}" ::
    (d.hint.map fun hint => s!"  hint: {hint}").toList

namespace Report

/-- The line with the counts. -/
def summaryLine (report : Report) : String :=
  s!"summary: errors={report.summary.errors} warnings={report.summary.warnings} artifacts={report.summary.artifacts} strictness={report.strictness} outcome={report.outcome.name}"

/-- The two lines at the end of a printed report. -/
def closingLines (report : Report) : List String :=
  [report.summaryLine, report.outcome.verdict]

/-- The report as plain text. -/
def plain (report : Report) : String :=
  "\n".intercalate (report.diagnostics.flatMap Diagnostic.plainLines ++ report.closingLines)

end Report

end OutlineLint

import OutlineLint.Report.Plain

/-!
# Reports as workflow commands

The runner of a workflow shows a diagnostic at its place if it is printed as a command. In the values
of a command the percent sign and the line breaks are escaped, one after the other over the whole
value, the percent sign first.
-/

namespace OutlineLint

/-! ### Escaped values -/

/-- Replaces a character by a text, everywhere. -/
def Text.substitute (c : Char) (text : List Char) (cs : List Char) : List Char :=
  cs.flatMap fun d => if d = c then text else [d]

/-- A value as it stands in a workflow command. -/
def Report.escapeValue (value : String) : String :=
  let percent := Text.substitute '%' ['%', '2', '5'] value.toList
  let returns := Text.substitute '\r' ['%', '0', 'D'] percent
  String.ofList (Text.substitute '\n' ['%', '0', 'A'] returns)

/-! ### Commands -/

/-- The properties of the command for a diagnostic. -/
def Diagnostic.properties (d : Diagnostic) : List String :=
  (d.path.map fun path => s!"file={path}").toList ++
    (d.line.map fun line => s!"line={line}").toList ++
    ["title=" ++ Report.escapeValue d.title]

/-- The command for a diagnostic. -/
def Diagnostic.command (d : Diagnostic) : String :=
  "::" ++ d.severity.name ++ " " ++ ",".intercalate d.properties ++ "::" ++
    Report.escapeValue d.message

namespace Report

/-- The report as workflow commands, then the counts and the verdict. -/
def workflow (report : Report) : String :=
  "\n".intercalate (report.diagnostics.map Diagnostic.command ++ report.closingLines)

end Report

end OutlineLint

import OutlineLint.Proofs.Json.Record
import OutlineLint.Proofs.Json.RoundTrip
import OutlineLint.Proofs.Json.Schema
import OutlineLint.Report.Json

/-!
# Reports are read back from their JSON text

Every part of a report is read back from its JSON form, provided that its numbers are of the size
that the reader expects. Since a text is read back as the value it was written from, so is a report from
its text (`readBack_json`).
-/

namespace OutlineLint

/-! ### Names -/

lemma Strictness.ofJson_toJson (s : Strictness) : ofJson s.toJson = .ok s :=
  Json.decodeEnum_name (by decide) (by cases s <;> decide)

lemma Severity.ofJson_toJson (s : Severity) : ofJson s.toJson = .ok s :=
  Json.decodeEnum_name (by decide) (by cases s <;> decide)

lemma Diagnostic.Code.ofJson_toJson (c : Code) : ofJson c.toJson = .ok c :=
  Json.decodeEnum_name (by decide) (by cases c <;> decide)

lemma Outcome.ofJson_toJson (o : Outcome) : ofJson o.toJson = .ok o :=
  Json.decodeEnum_name (by decide) (by cases o <;> decide)

/-! ### Diagnostics -/

lemma Diagnostic.ofJson_toJson {d : Diagnostic} (h : ∀ line ∈ d.line, line < UInt32.size) :
    ofJson d.toJson = .ok d := by
  have hcode := Code.ofJson_toJson d.code
  have hseverity := Severity.ofJson_toJson d.severity
  have hline := Json.decodeOption_nat "u32" h (by decide)
  have hstring? (s? : Option String) := Json.decodeOption_string s?
  rw [ofJson, toJson, Json.recordFields_object]
  · rw [Json.ok_bind, Json.Fields.required_sorted rfl hcode, Json.ok_bind,
      Json.Fields.required_sorted rfl hseverity, Json.ok_bind,
      Json.Fields.required_sorted rfl (Json.decodeString_string d.title), Json.ok_bind,
      Json.Fields.required_sorted rfl (Json.decodeString_string d.message), Json.ok_bind,
      Json.Fields.optional_sorted rfl (hstring? d.hint), Json.ok_bind,
      Json.Fields.optional_sorted rfl (hstring? d.path), Json.ok_bind,
      Json.Fields.optional_sorted rfl hline]
    rfl
  · simp [checks, Json.check]
  · refine .cons (Json.passes_check hcode) (.cons (Json.passes_check hseverity) ?_)
    refine .cons (Json.passes_check rfl) (.cons (Json.passes_check rfl) ?_)
    refine .cons (Json.passes_check (hstring? _)) (.cons (Json.passes_check (hstring? _)) ?_)
    exact .cons (Json.passes_check hline) .nil

namespace Report

variable {report other : Report}

/-! ### Reports -/

/-- The counts have a place in 64 bits. -/
structure Summary.InRange (summary : Summary) : Prop where
  errors_lt : summary.errors < UInt64.size
  warnings_lt : summary.warnings < UInt64.size
  artifacts_lt : summary.artifacts < UInt64.size

/-- The counts have a place in 64 bits and the lines in 32 bits. -/
structure InRange (report : Report) : Prop where
  summary : report.summary.InRange
  line_lt : ∀ d ∈ report.diagnostics, ∀ line ∈ d.line, line < UInt32.size

lemma decodeCount_nat {n : Nat} (h : n < UInt64.size) : decodeCount (.nat n) = .ok n :=
  Json.decodeNat_nat "u64" h (Nat.le_refl _)

lemma Summary.ofJson_toJson {summary : Summary} (h : summary.InRange) :
    ofJson summary.toJson = .ok summary := by
  have herrors := decodeCount_nat h.errors_lt
  have hwarnings := decodeCount_nat h.warnings_lt
  have hartifacts := decodeCount_nat h.artifacts_lt
  rw [ofJson, toJson, Json.recordFields_object]
  · rw [Json.ok_bind, Json.Fields.required_sorted rfl herrors, Json.ok_bind,
      Json.Fields.required_sorted rfl hwarnings, Json.ok_bind,
      Json.Fields.required_sorted rfl hartifacts]
    rfl
  · simp [Json.check]
  · refine .cons (Json.passes_check herrors) (.cons (Json.passes_check hwarnings) ?_)
    exact .cons (Json.passes_check hartifacts) .nil

lemma ofJson_toJson (h : report.InRange) : ofJson report.toJson = .ok report := by
  have hstrictness := Strictness.ofJson_toJson report.strictness
  have hdiagnostics : Json.decodeList Diagnostic.ofJson
      (.array (report.diagnostics.map (·.toJson))) = .ok report.diagnostics :=
    Json.decodeList_map fun d hd => Diagnostic.ofJson_toJson (h.line_lt d hd)
  have hsummary := Summary.ofJson_toJson h.summary
  have houtcome := Outcome.ofJson_toJson report.outcome
  rw [ofJson, toJson, Json.recordFields_object]
  · rw [Json.ok_bind, Json.Fields.required_sorted rfl (Json.decodeString_string report.repoRoot),
      Json.ok_bind, Json.Fields.required_sorted rfl hstrictness, Json.ok_bind,
      Json.Fields.required_sorted rfl (Json.decodeList_strings report.artifacts), Json.ok_bind,
      Json.Fields.required_sorted rfl hdiagnostics, Json.ok_bind,
      Json.Fields.required_sorted rfl hsummary, Json.ok_bind,
      Json.Fields.required_sorted rfl houtcome]
    rfl
  · simp [checks, Json.check]
  · refine .cons (Json.passes_check rfl) (.cons (Json.passes_check hstrictness) ?_)
    refine .cons (Json.passes_check (Json.decodeList_strings _)) ?_
    refine .cons (Json.passes_check hdiagnostics) (.cons (Json.passes_check hsummary) ?_)
    exact .cons (Json.passes_check houtcome) .nil

/-! ### The schema of reports -/

/-- The JSON form of a report has every field that the schema requires, and in each field a value of
the type or one of the values that the schema states. -/
lemma conforms_toJson (report : Report) : jsonSchema.Conforms report.toJson := by
  have hstrictness : report.strictness.toJson = .string "relaxed" ∨
      report.strictness.toJson = .string "standard" := by
    cases report.strictness <;> simp [Strictness.toJson, Strictness.name]
  have houtcome : report.outcome.toJson = .string "pass" ∨
      report.outcome.toJson = .string "pass_with_warnings" ∨
        report.outcome.toJson = .string "fail" := by
    cases report.outcome <;> simp [Outcome.toJson, Outcome.name]
  have hrequired : report.toJson.Satisfies "required" (.strings ["repo_root", "strictness",
      "artifacts", "diagnostics", "summary", "outcome"]) :=
    Json.satisfies_required (by simp)
  have hfields : report.toJson.fields = [("repo_root", .string report.repoRoot),
      ("strictness", report.strictness.toJson), ("artifacts", .strings report.artifacts),
      ("diagnostics", .array (report.diagnostics.map (·.toJson))),
      ("summary", report.summary.toJson), ("outcome", report.outcome.toJson)] := rfl
  have hsummary : report.summary.toJson.typeName? = some "object" := rfl
  have hobject : report.toJson.typeName? = some "object" := rfl
  simp only [jsonSchema, Json.Conforms, Json.ConformsToKeywords, Json.ConformsToProperties, hfields]
  simpa [hrequired, hsummary, hobject] using ⟨houtcome, hstrictness⟩

/-! ### Reading back -/

/-- A report can be written as JSON, and reading its text gives the report, so no other report has
the same text. What is read conforms to the schema of reports. -/
theorem readBack_json (h : report.InRange) :
    ∃ value, Json.parse? report.json = some value ∧ ofJson value = .ok report ∧
      jsonSchema.Conforms value ∧
        ∀ other : Report, other.InRange → other.json = report.json → other = report := by
  refine ⟨report.toJson, Json.parse?_pretty _, ofJson_toJson h, conforms_toJson report, ?_⟩
  intro other hother hjson
  have hvalue : other.toJson = report.toJson := Json.pretty_injective hjson
  have hread := ofJson_toJson hother
  rw [hvalue, ofJson_toJson h] at hread
  exact (Except.ok.inj hread).symm

/-- Strings with characters that are escaped, and the largest numbers. A hint that is missing and
one that is empty give different texts. -/
theorem readBack_json_escaped :
    let d : Diagnostic := ⟨.structuralExtra, .warning, "a \x22title\x22", "one\n\ttwo\x01 \\ é",
      none, some "p.md", some 4294967295⟩
    let report : Report := ⟨"r", .standard, ["", "\x7f"], [d], ⟨18446744073709551615, 0, 2⟩, .fail⟩
    let other : Report := { report with diagnostics := [d.withHint ""] }
    report.InRange ∧ other.InRange ∧ (∃ value, Json.parse? report.json = some value ∧
      ofJson value = .ok report ∧ jsonSchema.Conforms value) ∧ other.json ≠ report.json := by
  intro d report other
  have hsummary : report.summary.InRange := ⟨by decide, by decide, by decide⟩
  have hline : ∀ line ∈ d.line, line < UInt32.size := by
    intro line hline
    obtain rfl := Option.some.inj hline
    decide
  have hrange : report.InRange := ⟨hsummary, by simpa [report] using hline⟩
  have hrange' : other.InRange := ⟨hsummary, by simpa [other, Diagnostic.withHint] using hline⟩
  obtain ⟨value, hparse, hread, hconforms, hother⟩ := readBack_json hrange
  refine ⟨hrange, hrange', ⟨value, hparse, hread, hconforms⟩, ?_⟩
  intro hjson
  have hsame := hother other hrange' hjson
  have hhint : d.withHint "" = d := List.head_eq_of_cons_eq (congrArg Report.diagnostics hsame)
  exact absurd (congrArg Diagnostic.hint hhint) (by decide)

end Report

end OutlineLint

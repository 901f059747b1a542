import OutlineLint.Deviation
import OutlineLint.Json.Decode
import OutlineLint.Json.Printer
import OutlineLint.Report.Basic

/-!
# Reports as JSON

Each part of a report has a form as a JSON value, in which its fields keep the order of their
declaration, and is read back from it.
-/

namespace OutlineLint

/-! ### Names -/

def Strictness.toJson (s : Strictness) : Json := .string s.name

def Strictness.ofJson : Json → Except Mismatch Strictness := Json.decodeEnum all name

def Severity.toJson (s : Severity) : Json := .string s.name

def Severity.ofJson : Json → Except Mismatch Severity := Json.decodeEnum all name

def Diagnostic.Code.toJson (c : Code) : Json := .string c.name

def Diagnostic.Code.ofJson : Json → Except Mismatch Code := Json.decodeEnum all name

def Outcome.toJson (o : Outcome) : Json := .string o.name

def Outcome.ofJson : Json → Except Mismatch Outcome := Json.decodeEnum all name

/-! ### Deviations -/

namespace Deviation

def toJson : Deviation → Json
  | missing headings => .object [("kind", .string "missing"), ("headings", .strings headings)]
  | outOfOrder before after position =>
    .object [("kind", .string "out_of_order"), ("before", .string before),
      ("after", .string after), ("position", .nat position)]
  | extra headings => .object [("kind", .string "extra"), ("headings", .strings headings)]
  | optionalMisplaced heading anchor =>
    .object [("kind", .string "optional_misplaced"), ("heading", .string heading),
      ("anchor", .string anchor)]

/-- The kinds of deviations, by which their JSON forms are told apart. -/
inductive Kind
  | missing
  | outOfOrder
  | extra
  | optionalMisplaced
  deriving DecidableEq, Repr

namespace Kind

def all : List Kind := [missing, outOfOrder, extra, optionalMisplaced]

def name : Kind → String
  | missing => "missing"
  | outOfOrder => "out_of_order"
  | extra => "extra"
  | optionalMisplaced => "optional_misplaced"

/-- The kind as a part of messages. -/
def describe : Kind → String
  | missing => "struct variant Diagnosis::Missing"
  | outOfOrder => "struct variant Diagnosis::OutOfOrder"
  | extra => "struct variant Diagnosis::Extra"
  | optionalMisplaced => "struct variant Diagnosis::OptionalMisplaced"

def ofJson : Json → Except Mismatch Kind
  | .string s => Json.decodeName all name s
  | value => .error (.invalidType value.found "variant identifier")

/-- The tests of the fields that go with a kind. -/
def checks : Kind → List Json.FieldCheck
  | missing | extra => [Json.check "headings" (Json.decodeList Json.decodeString)]
  | outOfOrder =>
    [Json.check "before" Json.decodeString, Json.check "after" Json.decodeString,
      Json.check "position" (Json.decodeNat UInt64.size "usize")]
  | optionalMisplaced =>
    [Json.check "heading" Json.decodeString, Json.check "anchor" Json.decodeString]

end Kind

/-- Reads what goes with a kind. -/
def ofContent (kind : Kind) (content : Json) : Except Mismatch Deviation := do
  let fields ← Json.recordFields kind.describe
    s!"{Json.elements kind.checks.length} in sequence" kind.checks content
  match kind with
  | .missing =>
    return .missing (← fields.required "headings" (Json.decodeList Json.decodeString))
  | .outOfOrder =>
    return .outOfOrder (← fields.required "before" Json.decodeString)
      (← fields.required "after" Json.decodeString)
      (← fields.required "position" (Json.decodeNat UInt64.size "usize"))
  | .extra =>
    return .extra (← fields.required "headings" (Json.decodeList Json.decodeString))
  | .optionalMisplaced =>
    return .optionalMisplaced (← fields.required "heading" Json.decodeString)
      (← fields.required "anchor" Json.decodeString)

/-- Reads a deviation: the kind first, then what goes with it. -/
def ofJson : Json → Except Mismatch Deviation
  | .object fields => do
    let kind ← (Json.Fields.sorted fields).required "kind" Kind.ofJson
    ofContent kind (.object (fields.filter (·.1 != "kind")))
  | .array (kind :: items) => do
    let kind ← Kind.ofJson kind
    ofContent kind (.array items)
  | .array [] => .error (.missingField "kind")
  | value => .error (.invalidType value.found "internally tagged enum Diagnosis")

end Deviation

/-! ### Diagnostics -/

namespace Diagnostic

def toJson (d : Diagnostic) : Json :=
  .object [("code", d.code.toJson), ("severity", d.severity.toJson), ("title", .string d.title),
    ("message", .string d.message), ("hint", .ofOption .string d.hint),
    ("path", .ofOption .string d.path), ("line", .ofOption .nat d.line)]

/-- The tests of the fields. -/
def checks : List Json.FieldCheck :=
  [Json.check "code" Code.ofJson, Json.check "severity" Severity.ofJson,
    Json.check "title" Json.decodeString, Json.check "message" Json.decodeString,
    Json.check "hint" (Json.decodeOption Json.decodeString),
    Json.check "path" (Json.decodeOption Json.decodeString),
    Json.check "line" (Json.decodeOption (Json.decodeNat UInt32.size "u32"))]

def ofJson (value : Json) : Except Mismatch Diagnostic := do
  let fields ← Json.recordFields "struct Diagnostic" "fewer elements in array" checks value
  return {
    code := ← fields.required "code" Code.ofJson
    severity := ← fields.required "severity" Severity.ofJson
    title := ← fields.required "title" Json.decodeString
    message := ← fields.required "message" Json.decodeString
    hint := ← fields.optional "hint" Json.decodeString
    path := ← fields.optional "path" Json.decodeString
    line := ← fields.optional "line" (Json.decodeNat UInt32.size "u32") }

end Diagnostic

/-! ### Reports -/

namespace Report

def Summary.toJson (s : Summary) : Json :=
  .object [("errors", .nat s.errors), ("warnings", .nat s.warnings),
    ("artifacts", .nat s.artifacts)]

/-- Reads a count. -/
def decodeCount : Json → Except Mismatch Nat := Json.decodeNat UInt64.size "u64"

def Summary.ofJson (value : Json) : Except Mismatch Summary := do
  let fields ← Json.recordFields "struct RunSummary" "fewer elements in array"
    [Json.check "errors" decodeCount, Json.check "warnings" decodeCount,
      Json.check "artifacts" decodeCount] value
  return {
    errors := ← fields.required "errors" decodeCount
    warnings := ← fields.required "warnings" decodeCount
    artifacts := ← fields.required "artifacts" decodeCount }

def toJson (r : Report) : Json :=
  .object [("repo_root", .string r.repoRoot), ("strictness", r.strictness.toJson),
    ("artifacts", .strings r.artifacts), ("diagnostics", .array (r.diagnostics.map (·.toJson))),
    ("summary", r.summary.toJson), ("outcome", r.outcome.toJson)]

/-- The tests of the fields. -/
def checks : List Json.FieldCheck :=
  [Json.check "repo_root" Json.decodeString, Json.check "strictness" Strictness.ofJson,
    Json.check "artifacts" (Json.decodeList Json.decodeString),
    Json.check "diagnostics" (Json.decodeList Diagnostic.ofJson),
    Json.check "summary" Summary.ofJson, Json.check "outcome" Outcome.ofJson]

def ofJson (value : Json) : Except Mismatch Report := do
  let fields ← Json.recordFields "struct RunReport" "fewer elements in array" checks value
  return {
    repoRoot := ← fields.required "repo_root" Json.decodeString
    strictness := ← fields.required "strictness" Strictness.ofJson
    artifacts := ← fields.required "artifacts" (Json.decodeList Json.decodeString)
    diagnostics := ← fields.required "diagnostics" (Json.decodeList Diagnostic.ofJson)
    summary := ← fields.required "summary" Summary.ofJson
    outcome := ← fields.required "outcome" Outcome.ofJson }

/-- The report as JSON text. -/
def json (r : Report) : String := r.toJson.pretty

/-- What the JSON form of a report looks like, as a JSON schema. Its fields are in the order of
their names. -/
def jsonSchema : Json :=
  .object [
    ("$schema", .string "https://json-schema.org/draft/2020-12/schema"),
    ("properties", .object [
      ("artifacts", .object [("items", .object [("type", .string "string")]),
        ("type", .string "array")]),
      ("diagnostics", .object [("type", .string "array")]),
      ("outcome", .object [("enum", .strings ["pass", "pass_with_warnings", "fail"])]),
      ("repo_root", .object [("type", .string "string")]),
      ("strictness", .object [("enum", .strings ["relaxed", "standard"])]),
      ("summary", .object [("type", .string "object")])]),
    ("required", .strings ["repo_root", "strictness", "artifacts", "diagnostics", "summary",
      "outcome"]),
    ("title", .string "artifact-lint run report"),
    ("type", .string "object")]

end Report

end OutlineLint

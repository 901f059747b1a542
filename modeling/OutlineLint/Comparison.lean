import OutlineLint.Deviation
import OutlineLint.Schema

/-!
# Comparing an outline with a schema

Only the first occurrence of a heading counts as its position. A document that lacks a required
heading is not compared for order or for extra headings.

A template is compared strictly: the distinct required headings, in the document's order, have to be
the schema's. In an artifact each required heading has to stand after the one before it in the
schema, and the optional headings after the anchor.
-/

namespace OutlineLint.Comparison

/-! ### What both comparisons look at -/

/-- The position of the first occurrence. -/
def firstPosition? (outline : List String) (heading : String) : Option Nat :=
  outline.idxOf? heading

/-- The required headings that do not occur, in the schema's order. -/
def missing (schema : Schema) (outline : List String) : List String :=
  schema.required.filter fun h => (firstPosition? outline h).isNone

/-- The distinct headings that the schema does not name, in the document's order. -/
def extra (schema : Schema) (outline : List String) : List String :=
  (outline.filter fun h => !schema.isRecognized h).eraseDups

/-- The deviation of having extra headings, if there are any. -/
def extraDeviation? (schema : Schema) (outline : List String) : Option Deviation :=
  match extra schema outline with
  | [] => none
  | headings => some (.extra headings)

/-! ### Templates -/

/-- The distinct required headings, in the document's order. -/
def requiredInOrder (schema : Schema) (outline : List String) : List String :=
  (outline.filter schema.isRequired).eraseDups

/-- The first place at which two lists differ, counted from `position`. -/
def firstMismatch? (position : Nat) : List String → List String → Option Deviation
  | expected :: es, found :: fs =>
    if expected = found then firstMismatch? (position + 1) es fs
    else some (.outOfOrder expected found position)
  | _, _ => none

/-- The first required heading that stands where the schema has another one. -/
def templateOrder? (schema : Schema) (outline : List String) : Option Deviation :=
  firstMismatch? 1 schema.required (requiredInOrder schema outline)

/-- The deviations of a template. -/
def template (schema : Schema) (outline : List String) : List Deviation :=
  match missing schema outline with
  | [] => (templateOrder? schema outline).toList ++ (extraDeviation? schema outline).toList
  | headings => [.missing headings]

/-! ### Artifacts -/

/-- The required headings that occur, in the schema's order and with their first positions. -/
def presentRequired (schema : Schema) (outline : List String) : List (String × Nat) :=
  schema.required.filterMap fun h => (firstPosition? outline h).map (h, ·)

/-- The first two neighbours whose positions are inverted, counted from `position`. -/
def firstInversion? (position : Nat) : List (String × Nat) → Option Deviation
  | first :: second :: rest =>
    if second.2 < first.2 then some (.outOfOrder first.1 second.1 position)
    else firstInversion? (position + 1) (second :: rest)
  | _ => none

/-- The first required heading that stands after its successor. -/
def artifactOrder? (schema : Schema) (outline : List String) : Option Deviation :=
  firstInversion? 1 (presentRequired schema outline)

/-- Whether a heading occurs before the given position. -/
def occursBefore (outline : List String) (position : Nat) (heading : String) : Bool :=
  (firstPosition? outline heading).any (· < position)

/-- The optional headings that stand before the anchor, in the schema's order. -/
def misplaced (schema : Schema) (outline : List String) : List Deviation :=
  match firstPosition? outline schema.anchor with
  | none => []
  | some position =>
    (schema.optional.filter (occursBefore outline position)).map
      (.optionalMisplaced · schema.anchor)

/-- The deviations of an artifact. -/
def artifact (schema : Schema) (outline : List String) : List Deviation :=
  match missing schema outline with
  | [] =>
    (artifactOrder? schema outline).toList ++ misplaced schema outline ++
      (extraDeviation? schema outline).toList
  | headings => .missing headings :: misplaced schema outline

end OutlineLint.Comparison

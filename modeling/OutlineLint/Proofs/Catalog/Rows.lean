import Mathlib.Data.Option.Basic
import Mathlib.Tactic.Lemma
import OutlineLint.Catalog.Sheet

/-!
# Rows and their entries

A row gives an entry if every value in it can stand in one (`Row.Gives`), and this is so exactly if
it has no fault (`Row.faults_eq_nil_iff`). Of several faults among its headings a row has only the
first one; all of them are in `Schema.faults`.
-/

namespace OutlineLint

/-! ### All faults among headings -/

namespace Schema

/-- All faults of required headings, given those before them. -/
def requiredFaults (seen : List String) : List String → List Error
  | [] => []
  | h :: rest =>
    if Text.isAllBlank h then .blankRequired :: requiredFaults (h :: seen) rest
    else if h ∈ seen then .repeatedRequired h :: requiredFaults (h :: seen) rest
    else requiredFaults (h :: seen) rest

/-- All faults of optional headings, given those before them. -/
def optionalFaults (required seen : List String) : List String → List Error
  | [] => []
  | h :: rest =>
    if Text.isAllBlank h then .blankOptional :: optionalFaults required (h :: seen) rest
    else if h ∈ required then
      .requiredAndOptional h :: optionalFaults required (h :: seen) rest
    else if h ∈ seen then .repeatedOptional h :: optionalFaults required (h :: seen) rest
    else optionalFaults required (h :: seen) rest

/-- All faults of two lists: each heading may have one of its own. -/
def faults (required optional : List String) : List Error :=
  (if required.isEmpty then [.noRequired] else []) ++
    (requiredFaults [] required ++ optionalFaults required [] optional)

lemma requiredFault?_eq_head? (seen hs : List String) :
    requiredFault? seen hs = (requiredFaults seen hs).head? := by
  induction hs generalizing seen with
  | nil => rfl
  | cons h rest ih =>
    rw [requiredFault?, requiredFaults]
    split
    · rfl
    · split
      · rfl
      · exact ih (h :: seen)

lemma optionalFault?_eq_head? (required seen hs : List String) :
    optionalFault? required seen hs = (optionalFaults required seen hs).head? := by
  induction hs generalizing seen with
  | nil => rfl
  | cons h rest ih =>
    rw [optionalFault?, optionalFaults]
    split
    · rfl
    · split
      · rfl
      · split
        · rfl
        · exact ih (h :: seen)

/-- Only the first fault is noticed. -/
lemma fault?_eq_head? (required optional : List String) :
    fault? required optional = (faults required optional).head? := by
  rw [fault?, faults]
  split
  · rfl
  · rw [List.nil_append, List.head?_append, requiredFault?_eq_head?, optionalFault?_eq_head?]

end Schema

namespace Catalog

/-! ### Errors -/

lemma errorOf_build (required optional : List String) :
    errorOf (Schema.build required optional) = Schema.fault? required optional := by
  rw [Schema.build]
  split
  · next error h => exact h.symm
  · next h => exact h.symm

lemma toList_map_errorOf_eq_nil_iff {ε α β : Type} {result : Except ε α} {f : ε → β} :
    ((errorOf result).map f).toList = [] ↔ ∃ a, result = .ok a := by
  cases result <;> simp [errorOf]

lemma toOption_eq_some_iff {ε α : Type} {result : Except ε α} {a : α} :
    result.toOption = some a ↔ result = .ok a := by
  cases result <;> simp [Except.toOption]

/-! ### Entries of rows -/

namespace Row

/-- The row gives the entry: each of its values can be the entry's. -/
structure Gives (row : Row) (entry : Entry) : Prop where
  kind : ArtifactKind.parse row.kind = .ok entry.kind
  fileName : entry.fileName = Text.trim row.fileName
  isBareName : isBareName (Text.trim row.fileName) = true
  template : path? row.template = some entry.template
  agent : entry.agent.map some = row.agent.map path?
  schema : Schema.build row.required row.optional = .ok entry.schema

lemma entry?_eq_some_iff {row : Row} {entry : Entry} :
    row.entry? = some entry ↔ row.Gives entry := by
  obtain ⟨kind, fileName, template, agent, schema⟩ := entry
  unfold entry?
  simp only [bind, Option.bind_eq_some_iff, Option.guard_eq_some', toOption_eq_some_iff]
  constructor
  · rintro ⟨kind, hkind, _, hbare, template, htemplate, h⟩
    cases hagent : row.agent with
    | none =>
      simp only [hagent, Option.bind_some, Option.bind_eq_some_iff, toOption_eq_some_iff] at h
      obtain ⟨schema, hschema, hentry⟩ := h
      cases hentry
      exact ⟨hkind, rfl, hbare, htemplate, by rw [hagent]; rfl, hschema⟩
    | some agent =>
      simp only [hagent, Option.bind_eq_some_iff, Option.map_eq_some_iff,
        toOption_eq_some_iff] at h
      obtain ⟨_, ⟨path, hpath, rfl⟩, schema, hschema, hentry⟩ := h
      cases hentry
      exact ⟨hkind, rfl, hbare, htemplate, by simp [hagent, hpath], hschema⟩
  · rintro ⟨hkind, rfl, hbare, htemplate, hagent, hschema⟩
    refine ⟨kind, hkind, (), hbare, template, htemplate, ?_⟩
    cases hrow : row.agent with
    | none =>
      obtain rfl : agent = none := by simpa [hrow] using hagent
      simp [hschema, Except.toOption, pure]
    | some written =>
      simp only [hrow, Option.map_some, Option.map_eq_some_iff] at hagent
      obtain ⟨path, rfl, hpath⟩ := hagent
      simp [← hpath, hschema, Except.toOption, pure]

/-- The path of the agent is a path unless there is an agent and nothing is written for it. -/
lemma all_agent_iff {row : Row} :
    (row.agent.all fun agent => (path? agent).isSome) = true ↔
      ∃ agent : Option Path, agent.map some = row.agent.map path? := by
  cases hrow : row.agent with
  | none => simp
  | some written =>
    simp only [Option.all_some, Option.isSome_iff_exists, Option.map_some, Option.map_eq_some_iff]
    constructor
    · rintro ⟨path, hpath⟩
      exact ⟨some path, path, rfl, hpath.symm⟩
    · rintro ⟨_, path, rfl, hpath⟩
      exact ⟨path, hpath.symm⟩

/-- A row has no fault if and only if it gives an entry. -/
lemma faults_eq_nil_iff {row : Row} : row.faults = [] ↔ ∃ entry, row.Gives entry := by
  have hname : (if isBareName (Text.trim row.fileName) then [] else [RowFault.fileName]) = [] ↔
      isBareName (Text.trim row.fileName) = true := by simp
  have htemplate : (if (path? row.template).isSome then [] else [RowFault.template]) = [] ↔
      ∃ path, path? row.template = some path := by
    cases path? row.template <;> simp
  have hagent : (if row.agent.all fun agent => (path? agent).isSome then []
      else [RowFault.agent]) = [] ↔
        ∃ agent : Option Path, agent.map some = row.agent.map path? := by
    rw [← all_agent_iff]
    simp
  simp only [faults, List.append_eq_nil_iff, toList_map_errorOf_eq_nil_iff, hname, htemplate,
    hagent]
  constructor
  · rintro ⟨⟨⟨⟨⟨kind, hkind⟩, hbare⟩, template, htemplate⟩, agent, hagent⟩, schema, hschema⟩
    exact ⟨⟨kind, _, template, agent, schema⟩, hkind, rfl, hbare, htemplate, hagent, hschema⟩
  · rintro ⟨entry, h⟩
    exact ⟨⟨⟨⟨⟨_, h.kind⟩, h.isBareName⟩, _, h.template⟩, _, h.agent⟩, _, h.schema⟩

end Row

end Catalog

end OutlineLint

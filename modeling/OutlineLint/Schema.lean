import OutlineLint.Text.Blank

/-!
# Schemas

A schema lists the headings that a document must have, in their order, and the headings that it may
have after the last of these, the anchor. `Schema.Valid` says which lists make a schema; every
schema is valid, and `Schema.build` gives the first fault of lists that are not.
-/

namespace OutlineLint

/-- The lists are a schema's: there is a required heading, none of the headings is blank, none is
repeated, and none is both required and optional. -/
structure Schema.Valid (required optional : List String) : Prop where
  required_ne_nil : required ≠ []
  required_not_blank : ∀ h ∈ required, Text.trim h ≠ ""
  required_nodup : required.Nodup
  optional_not_blank : ∀ h ∈ optional, Text.trim h ≠ ""
  optional_nodup : optional.Nodup
  disjoint : ∀ h ∈ optional, h ∉ required

/-- Required headings in their order, and optional headings. -/
structure Schema where
  required : List String
  optional : List String
  valid : Schema.Valid required optional

namespace Schema

instance : DecidableEq Schema := fun a b =>
  if h : a.required = b.required ∧ a.optional = b.optional then
    isTrue (by cases a; cases b; simp_all)
  else
    isFalse (by rintro rfl; exact h ⟨rfl, rfl⟩)

/-! ### Faults -/

/-- Why two lists are no schema. -/
inductive Error
  | noRequired
  | blankRequired
  | repeatedRequired (heading : String)
  | blankOptional
  | requiredAndOptional (heading : String)
  | repeatedOptional (heading : String)
  deriving DecidableEq, Repr

def Error.message : Error → String
  | .noRequired => "schema must declare at least one required heading"
  | .blankRequired => "required heading cannot be empty"
  | .repeatedRequired h => s!"required heading `{h}` is duplicated"
  | .blankOptional => "optional heading cannot be empty"
  | .requiredAndOptional h => s!"heading `{h}` cannot be both required and optional"
  | .repeatedOptional h => s!"optional heading `{h}` is duplicated"

/-- The first fault among required headings, given those before them. -/
def requiredFault? (seen : List String) : List String → Option Error
  | [] => none
  | h :: rest =>
    if Text.isAllBlank h then some .blankRequired
    else if h ∈ seen then some (.repeatedRequired h)
    else requiredFault? (h :: seen) rest

/-- The first fault among optional headings, given those before them. -/
def optionalFault? (required seen : List String) : List String → Option Error
  | [] => none
  | h :: rest =>
    if Text.isAllBlank h then some .blankOptional
    else if h ∈ required then some (.requiredAndOptional h)
    else if h ∈ seen then some (.repeatedOptional h)
    else optionalFault? required (h :: seen) rest

/-- The first fault of two lists: an empty list of required headings, then a fault among the
required headings, then one among the optional headings. -/
def fault? (required optional : List String) : Option Error :=
  if required.isEmpty then some .noRequired
  else (requiredFault? [] required).or (optionalFault? required [] optional)

theorem requiredFault?_eq_none {seen hs : List String} (h : requiredFault? seen hs = none) :
    (∀ x ∈ hs, Text.trim x ≠ "") ∧ hs.Nodup ∧ ∀ x ∈ hs, x ∉ seen := by
  induction hs generalizing seen with
  | nil => simp
  | cons a rest ih =>
    simp only [requiredFault?] at h
    split at h
    · contradiction
    · split at h
      · contradiction
      · obtain ⟨blank, nodup, unseen⟩ := ih h
        simp only [List.mem_cons, not_or] at unseen
        refine ⟨by simp_all [Text.trim_eq_empty_iff],
          List.nodup_cons.2 ⟨fun ha => (unseen a ha).1 rfl, nodup⟩, ?_⟩
        intro x hx
        rcases List.mem_cons.1 hx with rfl | hx
        · assumption
        · exact (unseen x hx).2

theorem optionalFault?_eq_none {required seen hs : List String}
    (h : optionalFault? required seen hs = none) :
    (∀ x ∈ hs, Text.trim x ≠ "") ∧ hs.Nodup ∧ (∀ x ∈ hs, x ∉ required) ∧
      ∀ x ∈ hs, x ∉ seen := by
  induction hs generalizing seen with
  | nil => simp
  | cons a rest ih =>
    simp only [optionalFault?] at h
    split at h
    · contradiction
    · split at h
      · contradiction
      · split at h
        · contradiction
        · obtain ⟨blank, nodup, disjoint, unseen⟩ := ih h
          simp only [List.mem_cons, not_or] at unseen
          refine ⟨by simp_all [Text.trim_eq_empty_iff],
            List.nodup_cons.2 ⟨fun ha => (unseen a ha).1 rfl, nodup⟩, by simp_all, ?_⟩
          intro x hx
          rcases List.mem_cons.1 hx with rfl | hx
          · assumption
          · exact (unseen x hx).2

/-- Lists without a fault make a schema. -/
theorem valid_of_fault?_eq_none {required optional : List String}
    (h : fault? required optional = none) : Valid required optional := by
  simp only [fault?] at h
  split at h
  · contradiction
  · rename_i hne
    obtain ⟨hr, ho⟩ := Option.or_eq_none_iff.1 h
    obtain ⟨rblank, rnodup, -⟩ := requiredFault?_eq_none hr
    obtain ⟨oblank, onodup, odisjoint, -⟩ := optionalFault?_eq_none ho
    exact ⟨by simpa using hne, rblank, rnodup, oblank, onodup, odisjoint⟩

/-- The schema with the given headings, or the first fault of the lists. -/
def build (required optional : List String) : Except Error Schema :=
  match h : fault? required optional with
  | some e => .error e
  | none => .ok ⟨required, optional, valid_of_fault?_eq_none h⟩

/-! ### Headings of a schema -/

/-- The last required heading. -/
def anchor (schema : Schema) : String :=
  schema.required.getLast schema.valid.required_ne_nil

def isRequired (schema : Schema) (heading : String) : Bool :=
  schema.required.contains heading

/-- Whether a heading is required or optional. -/
def isRecognized (schema : Schema) (heading : String) : Bool :=
  schema.isRequired heading || schema.optional.contains heading

end Schema

end OutlineLint

import Mathlib.Data.List.Nodup
import Mathlib.Tactic.Lemma
import OutlineLint.Json.Decode

/-!
# What is written is decoded

For each decoder, the values that it reads back. A record is read field by field from its fields in
the order of their names; putting them into that order keeps what stands under a name
(`Fields.lookup_sorted`) and adds no field, so the tests of the fields all succeed if they succeed
on the fields as they are written (`recordFields_object`).
-/

namespace OutlineLint.Json

/-! ### Numbers, lists and options -/

@[simp] lemma decodeString_string (s : String) : decodeString (.string s) = .ok s := rfl

/-- A number below the bound of a type that has at most 64 bits is read back. -/
lemma decodeNat_nat {n bound : Nat} (expected : String) (h : n < bound)
    (hbound : bound ≤ UInt64.size) : decodeNat bound expected (.nat n) = .ok n := by
  have hfits : fits64 n = true := by
    have hmin : Int64.minValue.toInt ≤ 0 := by decide
    have hmax : (n : Int) < UInt64.size := by exact_mod_cast Nat.lt_of_lt_of_le h hbound
    simp only [fits64, Bool.and_eq_true, decide_eq_true_eq]
    exact ⟨by omega, hmax⟩
  simp [nat, decodeNat, hfits, h]

/-- A list is read back if each of its items is. -/
lemma decodeList_map {α : Type} {decode : Json → Except Mismatch α} {encode : α → Json}
    {items : List α} (h : ∀ a ∈ items, decode (encode a) = .ok a) :
    decodeList decode (.array (items.map encode)) = .ok items := by
  show (items.map encode).mapM decode = .ok items
  induction items with
  | nil => rfl
  | cons a items ih =>
    rw [List.forall_mem_cons] at h
    rw [List.map_cons, List.mapM_cons, h.1, ih h.2]
    rfl

@[simp] lemma decodeList_strings (items : List String) :
    decodeList decodeString (.strings items) = .ok items :=
  decodeList_map fun s _ => decodeString_string s

/-- What may be missing is read back, if no value of its type is written as `null`. -/
lemma decodeOption_ofOption {α : Type} {decode : Json → Except Mismatch α} {encode : α → Json}
    {a? : Option α} (hnull : ∀ a, encode a ≠ .null) (h : ∀ a ∈ a?, decode (encode a) = .ok a) :
    decodeOption decode (.ofOption encode a?) = .ok a? := by
  cases a? with
  | none => rfl
  | some a =>
    rw [ofOption, decodeOption, h a rfl]
    · rfl
    · exact hnull a

@[simp] lemma decodeOption_string (s? : Option String) :
    decodeOption decodeString (.ofOption .string s?) = .ok s? :=
  decodeOption_ofOption (fun _ => Json.noConfusion) fun s _ => decodeString_string s

lemma decodeOption_nat {n? : Option Nat} {bound : Nat} (expected : String)
    (h : ∀ n ∈ n?, n < bound) (hbound : bound ≤ UInt64.size) :
    decodeOption (decodeNat bound expected) (.ofOption .nat n?) = .ok n? :=
  decodeOption_ofOption (fun _ => Json.noConfusion) fun n hn =>
    decodeNat_nat expected (h n hn) hbound

/-! ### Names -/

/-- A value is found by its name if the names are distinct. -/
lemma decodeEnum_name {α : Type} {all : List α} {name : α → String} {a : α}
    (hnames : (all.map name).Nodup) (ha : a ∈ all) :
    decodeEnum all name (.string (name a)) = .ok a := by
  have hfind : all.find? (fun b => name b == name a) = some a := by
    cases hfound : all.find? (fun b => name b == name a) with
    | none => simpa using List.find?_eq_none.mp hfound a ha
    | some b =>
      have hsame := List.find?_some hfound
      have hname : name b = name a := beq_iff_eq.mp hsame
      rw [List.inj_on_of_nodup_map hnames (List.mem_of_find?_eq_some hfound) ha hname]
  rw [decodeEnum, decodeName, hfind]

/-! ### Fields -/

lemma lookup_cons {α : Type} {name other : String} {a : α} {rest : List (String × α)} :
    List.lookup other ((name, a) :: rest) =
      if other = name then some a else List.lookup other rest := by
  rw [List.lookup_cons]
  by_cases h : other = name
  · simp [h]
  · simp [h, beq_false_of_ne h]

namespace Fields

variable {fields : Fields} {field : String × Json} {name other : String} {value : Json}

lemma lookup_insert : (insert name value fields).lookup other =
    if other = name then some value else fields.lookup other := by
  induction fields with
  | nil => rw [insert, lookup_cons]
  | cons first fields ih =>
    obtain ⟨head, content⟩ := first
    rw [insert]
    by_cases hlt : name < head
    · rw [if_pos hlt, lookup_cons]
    · rw [if_neg hlt]
      by_cases heq : name = head
      · subst heq
        rw [if_pos rfl, lookup_cons, lookup_cons]
        split_ifs <;> rfl
      · rw [if_neg heq, lookup_cons, lookup_cons, ih]
        by_cases hhead : other = head
        · subst hhead
          rw [if_pos rfl, if_pos rfl, if_neg (Ne.symm heq)]
        · rw [if_neg hhead, if_neg hhead]

lemma mem_insert (h : field ∈ insert name value fields) :
    field = (name, value) ∨ field ∈ fields := by
  induction fields with
  | nil => simpa [insert] using h
  | cons first fields ih =>
    obtain ⟨head, content⟩ := first
    rw [insert] at h
    split_ifs at h with hlt heq
    · simpa using h
    · rcases List.mem_cons.mp h with rfl | h
      · exact .inl rfl
      · exact .inr (List.mem_cons_of_mem _ h)
    · rcases List.mem_cons.mp h with rfl | h
      · exact .inr List.mem_cons_self
      · exact (ih h).imp id (List.mem_cons_of_mem _)

/-- Under a name stands what is written last under it. -/
lemma lookup_sorted (fields : Fields) (name : String) :
    fields.sorted.lookup name = List.lookup name fields.reverse := by
  suffices h : ∀ done : Fields,
      (fields.foldl (fun done field => insert field.1 field.2 done) done).lookup name =
        List.lookup name (fields.reverse ++ done) by
    rw [sorted, h, List.append_nil]
  induction fields with
  | nil => simp
  | cons first fields ih =>
    intro done
    have hfirst : List.lookup name (insert first.1 first.2 done) =
        List.lookup name (first :: done) := by
      rw [lookup_insert, ← lookup_cons]
    rw [List.foldl_cons, ih, List.reverse_cons, List.append_assoc, List.singleton_append,
      List.lookup_append, List.lookup_append, hfirst]

variable {α : Type} {decode : Json → Except Mismatch α}

lemma required_sorted {a : α} (h : List.lookup name fields.reverse = some value)
    (hdecode : decode value = .ok a) : fields.sorted.required name decode = .ok a := by
  rw [required, lookup_sorted, h]
  exact hdecode

lemma optional_sorted {a? : Option α} (h : List.lookup name fields.reverse = some value)
    (hdecode : decodeOption decode value = .ok a?) :
    fields.sorted.optional name decode = .ok a? := by
  rw [optional, lookup_sorted, h]
  exact hdecode

lemma mem_of_mem_sorted (h : field ∈ fields.sorted) : field ∈ fields := by
  suffices h' : ∀ done : Fields,
      field ∈ fields.foldl (fun done field => insert field.1 field.2 done) done →
        field ∈ fields ∨ field ∈ done by
    simpa using h' [] h
  clear h
  induction fields with
  | nil => simp
  | cons first fields ih =>
    intro done h
    rcases ih _ h with h | h
    · exact .inl (List.mem_cons_of_mem _ h)
    · rcases mem_insert h with rfl | h
      · exact .inl List.mem_cons_self
      · exact .inr h

end Fields

/-! ### Records -/

lemma ok_bind {α β : Type} (a : α) (f : α → Except Mismatch β) : (Except.ok a >>= f) = f a := rfl

lemma checkFields_eq_ok {checks : List FieldCheck} {fields : Fields}
    (h : ∀ field ∈ fields, ∀ test ∈ checks.lookup field.1, test field.2 = .ok ()) :
    checkFields checks fields = .ok () := by
  induction fields with
  | nil => rfl
  | cons field fields ih =>
    rw [List.forall_mem_cons] at h
    rw [checkFields]
    cases htest : checks.lookup field.1 with
    | none => exact ih h.2
    | some test =>
      show (test field.2 >>= fun _ => checkFields checks fields) = .ok ()
      rw [h.1 test htest, ih h.2]
      rfl

/-- The field has the name of the test and passes it. -/
def Passes (test : FieldCheck) (field : String × Json) : Prop :=
  test.1 = field.1 ∧ test.2 field.2 = .ok ()

lemma passes_check {α : Type} {name : String} {decode : Json → Except Mismatch α} {value : Json}
    {a : α} (h : decode value = .ok a) : Passes (check name decode) (name, value) := by
  refine ⟨rfl, ?_⟩
  show (decode value).map _ = .ok ()
  rw [h]
  rfl

lemma names_eq {checks : List FieldCheck} {fields : Fields}
    (h : List.Forall₂ Passes checks fields) : checks.map Prod.fst = fields.map Prod.fst := by
  induction h with
  | nil => rfl
  | cons hpasses _ ih => rw [List.map_cons, List.map_cons, hpasses.1, ih]

/-- The test of a field is the one at its place. -/
lemma test_of_lookup {checks : List FieldCheck} {fields : Fields}
    (hnames : (checks.map Prod.fst).Nodup) (h : List.Forall₂ Passes checks fields) :
    ∀ field ∈ fields, ∀ test ∈ checks.lookup field.1, test field.2 = .ok () := by
  induction h with
  | nil => simp
  | @cons check field checks fields hpasses hrest ih =>
    obtain ⟨name, test⟩ := check
    obtain ⟨rfl, hfield⟩ : name = field.1 ∧ test field.2 = .ok () := hpasses
    rw [List.map_cons, List.nodup_cons] at hnames
    rintro other hother found hfound
    rw [Option.mem_def, lookup_cons] at hfound
    rcases List.mem_cons.mp hother with rfl | hother
    · rw [if_pos rfl] at hfound
      rwa [← Option.some.inj hfound]
    · have hmem : other.1 ∈ checks.map Prod.fst := by
        rw [names_eq hrest]
        exact List.mem_map_of_mem hother
      rw [if_neg (ne_of_mem_of_not_mem hmem hnames.1)] at hfound
      exact ih hnames.2 other hother found hfound

/-- An object whose fields pass the tests one by one is read as a record. -/
lemma recordFields_object {checks : List FieldCheck} {fields : Fields} (expected surplus : String)
    (hnames : (checks.map Prod.fst).Nodup) (h : List.Forall₂ Passes checks fields) :
    recordFields expected surplus checks (.object fields) = .ok fields.sorted := by
  have htests := test_of_lookup hnames h
  have hsorted := checkFields_eq_ok fun field hfield =>
    htests field (Fields.mem_of_mem_sorted hfield)
  rw [recordFields, hsorted]
  rfl

end OutlineLint.Json

import Mathlib.Data.List.Basic
import Mathlib.Tactic.Lemma
import OutlineLint.Json.Printer
import OutlineLint.Json.Reader

/-!
# Written values are read back

Reading goes on from the start of a text and leaves the rest of it. So each part of a value is read
back before any rest that it cannot run into: strings and brackets before every rest, a number
before a rest that does not go on with it (`EndsNumber`). An array or object is read item by item, and what
stands between the items is skipped (`readValue_write`). A text that is written from a value holds
this value and nothing else (`parse?_pretty`).
-/

namespace OutlineLint.Json

variable {fuel level outer : Nat} {rest : List Char}

/-! ### Induction -/

/-- To prove something of all values, it may be assumed of the items of an array and of the values
of the fields of an object. -/
@[elab_as_elim]
theorem induct {motive : Json → Prop} (null : motive .null) (bool : ∀ b, motive (.bool b))
    (integer : ∀ n, motive (.integer n)) (decimal : ∀ d, motive (.decimal d))
    (string : ∀ s, motive (.string s))
    (array : ∀ items, (∀ item ∈ items, motive item) → motive (.array items))
    (object : ∀ fields, (∀ field ∈ fields, motive field.2) → motive (.object fields))
    (value : Json) : motive value := by
  match value with
  | .null => exact null
  | .bool b => exact bool b
  | .integer n => exact integer n
  | .decimal d => exact decimal d
  | .string s => exact string s
  | .array items =>
    exact array items fun item hitem => induct null bool integer decimal string array object item
  | .object fields =>
    exact object fields fun field hfield =>
      induct null bool integer decimal string array object field.2
termination_by value
decreasing_by
  · have hlt := List.sizeOf_lt_of_mem hitem
    rw [Json.array.sizeOf_spec]
    omega
  · have hlt := List.sizeOf_lt_of_mem hfield
    obtain ⟨name, content⟩ := field
    rw [Prod.mk.sizeOf_spec] at hlt
    rw [Json.object.sizeOf_spec]
    show sizeOf content < _
    omega

/-! ### Strings -/

lemma fourDigits?_hexDigit : ∀ n < 0x20,
    fourDigits? '0' '0' (hexDigit (n / 16)) (hexDigit n) = some n := by decide

lemma readString_plain {c : Char} (hquote : c ≠ '\x22') (hbackslash : c ≠ '\\')
    (hcontrol : ¬ c.toNat < 0x20) (done rest : List Char) :
    readString done (c :: rest) = readString (c :: done) rest := by
  rw [readString, if_neg (not_or.mpr ⟨hbackslash, hcontrol⟩)]
  all_goals
    intros
    simp_all

/-- An escaped character is read back, whatever stands before and after it. -/
lemma readString_escapeChar (done : List Char) (c : Char) (rest : List Char) :
    readString done (escapeChar c ++ rest) = readString (c :: done) rest := by
  unfold escapeChar
  split_ifs with hquote hbackslash hb hf hn hr ht hcontrol
  · subst hquote; simp [readString, unescape?]
  · subst hbackslash; simp [readString, unescape?]
  · subst hb; simp [readString, unescape?]
  · subst hf; simp [readString, unescape?]
  · subst hn; simp [readString, unescape?]
  · subst hr; simp [readString, unescape?]
  · subst ht; simp [readString, unescape?]
  · have hcode := fourDigits?_hexDigit c.toNat hcontrol
    have hhigh : isHighSurrogate c.toNat = false := by simp [isHighSurrogate]; omega
    have hlow : isLowSurrogate c.toNat = false := by simp [isLowSurrogate]; omega
    simp [readString, hcode, hhigh, hlow]
  · -- what is not escaped is neither the quote nor the backslash nor a control character
    rw [List.singleton_append, readString_plain hquote hbackslash hcontrol]

/-- A string is read back after its first quote. -/
lemma readString_flatMap_escapeChar (done cs rest : List Char) :
    readString done (cs.flatMap escapeChar ++ '\x22' :: rest) =
      some (done.reverse ++ cs, rest) := by
  induction cs generalizing done with
  | nil => simp [readString]
  | cons c cs ih =>
    rw [List.flatMap_cons, List.append_assoc, readString_escapeChar, ih]
    simp

/-! ### Numbers -/

/-- The text does not go on with a number that ends before it. -/
def EndsNumber (rest : List Char) : Prop :=
  ∀ c ∈ rest.head?, c.isDigit = false ∧ c ≠ '.' ∧ c ≠ 'e' ∧ c ≠ 'E'

lemma EndsNumber.nil : EndsNumber [] := by simp [EndsNumber]

lemma EndsNumber.comma (rest : List Char) : EndsNumber (',' :: rest) := by
  simp [EndsNumber]

lemma EndsNumber.newLine (level : Nat) (rest : List Char) : EndsNumber (newLine level ++ rest) := by
  simp [EndsNumber, Json.newLine]

lemma digitsValue_toDigits (n : Nat) : digitsValue (Nat.toDigits 10 n) = n := by
  have h : Nat.ofDigitChars 10 (Nat.toDigits 10 n) 0 = n := Nat.ofDigitChars_ten_toDigits
  rw [Nat.ofDigitChars_eq_foldl] at h
  simpa [digitsValue, Nat.mul_comm] using h

lemma isDigit_of_mem_toDigits {n : Nat} {c : Char} (h : c ∈ Nat.toDigits 10 n) :
    c.isDigit = true :=
  Nat.isDigit_of_mem_toDigits (by decide) (by decide) h

/-- No number but zero starts with a zero. -/
lemma head?_toDigits_ne {n : Nat} (h : n ≠ 0) : (Nat.toDigits 10 n).head? ≠ some '0' := by
  induction n using Nat.strongRecOn with
  | ind n ih =>
    rw [Nat.toDigits_eq_if (by decide)]
    split
    · next hlt =>
      have hdigit : ∀ n < 10, n ≠ 0 → Nat.digitChar n ≠ '0' := by decide
      simpa using hdigit n hlt h
    · next hge =>
      rw [List.head?_append_of_ne_nil _ Nat.toDigits_ne_nil]
      exact ih (n / 10) (by omega) (by omega)

lemma spanDigits_append {ds : List Char} (hds : ∀ c ∈ ds, c.isDigit = true)
    (hrest : ∀ c ∈ rest.head?, c.isDigit = false) : spanDigits (ds ++ rest) = (ds, rest) := by
  have htake : rest.takeWhile Char.isDigit = [] := by
    cases rest with
    | nil => rfl
    | cons c rest => simp [hrest c rfl]
  have hdrop : rest.dropWhile Char.isDigit = rest := by
    cases rest with
    | nil => rfl
    | cons c rest => simp [hrest c rfl]
  rw [spanDigits, List.takeWhile_append_of_pos hds, List.dropWhile_append_of_pos hds, htake, hdrop,
    List.append_nil]

lemma readFraction?_of_ne (h : ∀ c ∈ rest.head?, c ≠ '.') :
    readFraction? rest = some ([], rest) := by
  unfold readFraction?
  split
  · exact absurd rfl (h _ rfl)
  · rfl

lemma readExponent?_of_ne (h : ∀ c ∈ rest.head?, c ≠ 'e' ∧ c ≠ 'E') :
    readExponent? rest = some (none, rest) := by
  unfold readExponent?
  split
  · next c rest =>
    have hc := h c rfl
    simp [hc.1, hc.2]
  · rfl

lemma readPower?_toDigits (negative : Bool) (n : Nat) (hrest : EndsNumber rest) :
    readPower? negative (Nat.toDigits 10 n ++ rest) =
      some (if negative then -(n : Int) else n, rest) := by
  have hspan := spanDigits_append (fun c => isDigit_of_mem_toDigits (n := n))
    fun c hc => (hrest c hc).1
  simp [readPower?, hspan, digitsValue_toDigits, Nat.toDigits_ne_nil]

/-- The digits of a number are read as they are. -/
lemma leadingDigits_toDigits (n : Nat) :
    (!(Nat.toDigits 10 n).isEmpty &&
      ((Nat.toDigits 10 n).length = 1 || (Nat.toDigits 10 n).head? != some '0')) = true := by
  have hempty : (Nat.toDigits 10 n).isEmpty = false := by simp [Nat.toDigits_ne_nil]
  by_cases hn : n = 0
  · simp [hn]
  · simp [hempty, head?_toDigits_ne hn]

/-- Digits are a number together with the power of ten after them, if there is one. -/
lemma readMagnitude?_toDigits (negative : Bool) (n : Nat) {power : Option Int} {rest' : List Char}
    (hrest : ∀ c ∈ rest.head?, c.isDigit = false ∧ c ≠ '.')
    (hpower : readExponent? rest = some (power, rest')) :
    readMagnitude? negative (Nat.toDigits 10 n ++ rest) =
      some (if power.isNone && !(negative && n = 0) then
        .integer (if negative then -(n : Int) else n)
      else .decimal ⟨negative, n, power.getD 0⟩, rest') := by
  have hspan := spanDigits_append (fun c => isDigit_of_mem_toDigits (n := n))
    fun c hc => (hrest c hc).1
  have hfraction := readFraction?_of_ne fun c hc => (hrest c hc).2
  have hlead := leadingDigits_toDigits n
  simp only [readMagnitude?, hspan, hlead, hfraction, guard, if_true, Option.bind_eq_bind,
    Option.bind_some, Option.pure_def, hpower, List.append_nil, digitsValue_toDigits]
  split <;> simp_all

/-- No digits start with a sign. -/
lemma exists_toDigits_eq_cons (n : Nat) :
    ∃ c cs, Nat.toDigits 10 n = c :: cs ∧ c.isDigit = true := by
  obtain ⟨c, cs, hcs⟩ := List.exists_cons_of_ne_nil (Nat.toDigits_ne_nil (n := n) (b := 10))
  exact ⟨c, cs, hcs, isDigit_of_mem_toDigits (n := n) (hcs ▸ List.mem_cons_self)⟩

lemma ne_of_isDigit {c d : Char} (hc : c.isDigit = true) (hd : d.isDigit = false) : c ≠ d := by
  rintro rfl
  simp [hc] at hd

lemma readNumber?_digits {c : Char} {cs : List Char} (hc : c.isDigit = true) :
    readNumber? (c :: cs) = readMagnitude? false (c :: cs) := by
  unfold readNumber?
  split
  · next heq => exact absurd (List.cons.inj heq).1 (ne_of_isDigit hc (by decide))
  · rfl

/-- The decimal form of an integer: digits, after a sign if it is negative. -/
lemma toList_toString_int (n : Int) : (toString n).toList =
    if 0 ≤ n then Nat.toDigits 10 n.natAbs else '-' :: Nat.toDigits 10 n.natAbs := by
  rw [Int.toString_eq_repr, Int.repr_eq_if]
  split
  · have habs : n.toNat = n.natAbs := by omega
    rw [Nat.toList_repr, habs]
  · have habs : (-n).toNat = n.natAbs := by omega
    rw [String.toList_append, Nat.toList_repr, habs]
    rfl

lemma readNumber?_integer (n : Int) (hrest : EndsNumber rest) :
    readNumber? ((toString n).toList ++ rest) = some (.integer n, rest) := by
  have hstop : ∀ c ∈ rest.head?, c.isDigit = false ∧ c ≠ '.' := fun c hc =>
    ⟨(hrest c hc).1, (hrest c hc).2.1⟩
  have hpower := readExponent?_of_ne fun c hc => (hrest c hc).2.2
  rw [toList_toString_int]
  split
  · next h =>
    obtain ⟨c, cs, hcs, hc⟩ := exists_toDigits_eq_cons n.natAbs
    have hread := readMagnitude?_toDigits false n.natAbs hstop hpower
    rw [hcs, List.cons_append] at hread ⊢
    rw [readNumber?_digits hc, hread]
    simpa using Int.natAbs_of_nonneg h
  · next h =>
    have hzero : n.natAbs ≠ 0 := by omega
    have habs : n = -(n.natAbs : Int) := by omega
    rw [List.cons_append, readNumber?, readMagnitude?_toDigits true n.natAbs hstop hpower]
    generalize n.natAbs = m at hzero habs
    subst habs
    simp [hzero]

lemma readExponent?_toString (n : Int) (hrest : EndsNumber rest) :
    readExponent? ('e' :: (toString n).toList ++ rest) = some (some n, rest) := by
  rw [toList_toString_int, List.cons_append]
  split
  · next h =>
    obtain ⟨c, cs, hcs, hc⟩ := exists_toDigits_eq_cons n.natAbs
    have hread := readPower?_toDigits false n.natAbs hrest
    rw [hcs, List.cons_append] at hread ⊢
    simp only [readExponent?, true_or, if_true]
    split
    · next heq => exact absurd (List.cons.inj heq).1 (ne_of_isDigit hc (by decide))
    · next heq => exact absurd (List.cons.inj heq).1 (ne_of_isDigit hc (by decide))
    · rw [hread]
      simpa using Int.natAbs_of_nonneg h
  · next h =>
    have habs : n = -(n.natAbs : Int) := by omega
    have hread := readPower?_toDigits true n.natAbs hrest
    generalize n.natAbs = m at habs hread
    subst habs
    simp [readExponent?, hread]

lemma readNumber?_writeDecimal (d : Decimal) (hrest : EndsNumber rest) :
    readNumber? (writeDecimal d ++ rest) = some (.decimal d, rest) := by
  obtain ⟨negative, n, e⟩ := d
  have hpower := readExponent?_toString e hrest
  have hread := readMagnitude?_toDigits negative n (by simp) hpower
  simp only [writeDecimal, Nat.toList_repr, List.append_assoc]
  cases negative with
  | true =>
    simp only [if_true, List.singleton_append, readNumber?]
    rw [hread]
    rfl
  | false =>
    obtain ⟨c, cs, hcs, hc⟩ := exists_toDigits_eq_cons n
    simp only [Bool.false_eq_true, if_false, List.nil_append]
    rw [hcs, List.cons_append] at hread ⊢
    rw [readNumber?_digits hc, hread]
    rfl

/-! ### Values -/

/-- A character with which a number starts. -/
def StartsNumber (c : Char) : Prop := c.isDigit = true ∨ c = '-'

lemma exists_toString_int_eq_cons (n : Int) :
    ∃ c cs, (toString n).toList = c :: cs ∧ StartsNumber c := by
  rw [toList_toString_int]
  split
  · obtain ⟨c, cs, hcs, hc⟩ := exists_toDigits_eq_cons n.natAbs
    exact ⟨c, cs, hcs, .inl hc⟩
  · exact ⟨'-', _, rfl, .inr rfl⟩

lemma exists_writeDecimal_eq_cons (d : Decimal) :
    ∃ c cs, writeDecimal d = c :: cs ∧ StartsNumber c := by
  obtain ⟨negative, n, e⟩ := d
  cases negative with
  | true => exact ⟨'-', _, rfl, .inr rfl⟩
  | false =>
    obtain ⟨c, cs, hcs, hc⟩ := exists_toDigits_eq_cons n
    refine ⟨c, cs ++ 'e' :: (toString e).toList, ?_, .inl hc⟩
    rw [writeDecimal, Nat.toList_repr, hcs]
    rfl

/-- What starts as a number does is read as a number. -/
lemma readValue_number {c : Char} {cs : List Char} (hc : StartsNumber c) :
    readValue (fuel + 1) (c :: cs) = readNumber? (c :: cs) := by
  rw [readValue]
  all_goals
    intro rest heq
    rw [(List.cons.inj heq).1] at hc
    exact absurd hc (by simp [StartsNumber])

/-- A written value starts with none of the characters that may stand before it, nor with the end of
an array. -/
lemma exists_write_eq_cons (level : Nat) (value : Json) :
    ∃ c cs, write level value = c :: cs ∧ isSpace c = false ∧ c ≠ ']' := by
  have hnumber {c : Char} (hc : StartsNumber c) : isSpace c = false ∧ c ≠ ']' := by
    have hne : c ≠ ' ' ∧ c ≠ '\t' ∧ c ≠ '\n' ∧ c ≠ '\r' ∧ c ≠ ']' := by
      refine ⟨?_, ?_, ?_, ?_, ?_⟩
      all_goals
        rintro rfl
        simp [StartsNumber] at hc
    simpa [isSpace, and_assoc] using hne
  match value with
  | .null => exact ⟨'n', _, rfl, by decide, by decide⟩
  | .bool true => exact ⟨'t', _, rfl, by decide, by decide⟩
  | .bool false => exact ⟨'f', _, rfl, by decide, by decide⟩
  | .integer n =>
    obtain ⟨c, cs, hcs, hc⟩ := exists_toString_int_eq_cons n
    exact ⟨c, cs, hcs, hnumber hc⟩
  | .decimal d =>
    obtain ⟨c, cs, hcs, hc⟩ := exists_writeDecimal_eq_cons d
    exact ⟨c, cs, hcs, hnumber hc⟩
  | .string s => exact ⟨'\x22', _, rfl, by decide, by decide⟩
  | .array [] => exact ⟨'[', _, rfl, by decide, by decide⟩
  | .array (item :: items) => exact ⟨'[', _, rfl, by decide, by decide⟩
  | .object [] => exact ⟨'\x7b', _, rfl, by decide, by decide⟩
  | .object ((name, value) :: fields) => exact ⟨'\x7b', _, rfl, by decide, by decide⟩

lemma exists_fuel_eq {value : Json} (h : (write level value).length ≤ fuel) :
    ∃ left, fuel = left + 1 := by
  obtain ⟨c, cs, hcs, -⟩ := exists_write_eq_cons level value
  rw [hcs, List.length_cons] at h
  exact Nat.exists_eq_add_one_of_ne_zero (Nat.ne_zero_of_lt h)

lemma skipSpace_cons {c : Char} (h : isSpace c = false) (cs : List Char) :
    skipSpace (c :: cs) = c :: cs := by
  simp [skipSpace, h]

lemma skipSpace_newLine (level : Nat) (cs : List Char) :
    skipSpace (newLine level ++ cs) = skipSpace cs := by
  simp only [skipSpace, newLine, List.cons_append]
  rw [List.dropWhile_cons_of_pos (by decide), List.dropWhile_append_of_pos]
  intro c hc
  rw [List.eq_of_mem_replicate hc]
  decide

lemma skipSpace_write (level : Nat) (value : Json) (rest : List Char) :
    skipSpace (write level value ++ rest) = write level value ++ rest := by
  obtain ⟨c, cs, hcs, hspace, -⟩ := exists_write_eq_cons level value
  rw [hcs, List.cons_append, skipSpace_cons hspace]

/-- The value is read back with as much fuel as its text is long. -/
def ReadBack (value : Json) : Prop :=
  ∀ level fuel rest, EndsNumber rest → (write level value).length ≤ fuel →
    readValue fuel (write level value ++ rest) = some (value, rest)

lemma length_newLine_pos (level : Nat) : 0 < (newLine level).length := by
  simp [newLine]

lemma readItems_write {item : Json} {items : List Json}
    (h : ∀ other ∈ item :: items, other.ReadBack)
    (hfuel : (write level item ++ writeItems level items).length < fuel) :
    readItems fuel (write level item ++ (writeItems level items ++
      (newLine outer ++ ']' :: rest))) = some (item :: items, rest) := by
  induction items generalizing item fuel with
  | nil =>
    obtain ⟨fuel, rfl⟩ := Nat.exists_eq_add_one_of_ne_zero (Nat.ne_zero_of_lt hfuel)
    rw [writeItems, List.append_nil] at hfuel
    have hitem := h item List.mem_cons_self level fuel _ (EndsNumber.newLine outer (']' :: rest))
      (Nat.le_of_lt_succ hfuel)
    rw [writeItems, List.nil_append, readItems, hitem]
    simp only [skipSpace_newLine, skipSpace_cons (c := ']') (by decide)]
  | cons next items ih =>
    obtain ⟨fuel, rfl⟩ := Nat.exists_eq_add_one_of_ne_zero (Nat.ne_zero_of_lt hfuel)
    rw [List.forall_mem_cons] at h
    have hpos := length_newLine_pos level
    simp only [writeItems, List.cons_append, List.append_assoc, List.length_append,
      List.length_cons] at hfuel ⊢
    have hlength : (write level next ++ writeItems level items).length < fuel := by
      rw [List.length_append]
      omega
    have hnext := ih h.2 hlength
    have hitem := h.1 level fuel _ (EndsNumber.comma (newLine level ++ (write level next ++
      (writeItems level items ++ (newLine outer ++ ']' :: rest))))) (by omega)
    rw [readItems, hitem]
    simp only [skipSpace_cons (c := ',') (by decide), skipSpace_newLine, skipSpace_write, hnext,
      Option.map_some]

/-- A string is read back, between its quotes. -/
lemma writeString_append (s : String) (rest : List Char) :
    writeString s ++ rest = '\x22' :: (s.toList.flatMap escapeChar ++ '\x22' :: rest) := by
  simp [writeString]

lemma skipSpace_space (cs : List Char) : skipSpace (' ' :: cs) = skipSpace cs := by
  simp [skipSpace, isSpace]

lemma skipSpace_writeString (s : String) (rest : List Char) :
    skipSpace (writeString s ++ rest) = writeString s ++ rest := by
  rw [writeString_append, skipSpace_cons (by decide)]

lemma readFields_write {name : String} {value : Json} {fields : List (String × Json)}
    (h : ∀ field ∈ (name, value) :: fields, field.2.ReadBack)
    (hfuel : (write level value ++ writeFields level fields).length + 1 < fuel) :
    readFields fuel (writeString name ++ (':' :: ' ' :: (write level value ++
      (writeFields level fields ++ (newLine outer ++ '\x7d' :: rest))))) =
      some ((name, value) :: fields, rest) := by
  induction fields generalizing name value fuel with
  | nil =>
    obtain ⟨fuel, rfl⟩ := Nat.exists_eq_add_one_of_ne_zero (Nat.ne_zero_of_lt hfuel)
    have hback : value.ReadBack := h (name, value) List.mem_cons_self
    rw [writeFields, List.append_nil] at hfuel
    have hvalue := hback level fuel _ (EndsNumber.newLine outer ('\x7d' :: rest)) (by omega)
    rw [writeString_append, readFields, readString_flatMap_escapeChar, writeFields, List.nil_append]
    simp only [skipSpace_cons (c := ':') (by decide), skipSpace_space, skipSpace_write, hvalue,
      skipSpace_newLine, skipSpace_cons (c := '\x7d') (by decide), List.reverse_nil,
      List.nil_append, String.ofList_toList]
  | cons next fields ih =>
    obtain ⟨fuel, rfl⟩ := Nat.exists_eq_add_one_of_ne_zero (Nat.ne_zero_of_lt hfuel)
    obtain ⟨other, content⟩ := next
    rw [List.forall_mem_cons] at h
    have hback : value.ReadBack := h.1
    have hpos := length_newLine_pos level
    simp only [writeFields, List.cons_append, List.append_assoc, List.length_append,
      List.length_cons, List.nil_append] at hfuel ⊢
    have hlength : (write level content ++ writeFields level fields).length + 1 < fuel := by
      rw [List.length_append]
      omega
    have hnext := ih h.2 hlength
    have hvalue := hback level fuel _ (EndsNumber.comma (newLine level ++ (writeString other ++
      (':' :: ' ' :: (write level content ++ (writeFields level fields ++
        (newLine outer ++ '\x7d' :: rest))))))) (by omega)
    rw [writeString_append, readFields, readString_flatMap_escapeChar]
    simp only [skipSpace_cons (c := ':') (by decide), skipSpace_space, skipSpace_write, hvalue,
      skipSpace_cons (c := ',') (by decide), skipSpace_newLine, skipSpace_writeString, hnext,
      Option.map_some, List.reverse_nil, List.nil_append, String.ofList_toList]

lemma readValue_bracket {c : Char} (hspace : isSpace c = false) (hc : c ≠ ']') (level : Nat)
    (cs : List Char) :
    readValue (fuel + 1) ('[' :: (newLine level ++ c :: cs)) =
      (readItems fuel (c :: cs)).map fun (items, rest) => (.array items, rest) := by
  rw [readValue]
  simp only [skipSpace_newLine, skipSpace_cons hspace]
  split
  · next heq => exact absurd (List.cons.inj heq).1 hc
  · rfl

lemma readValue_brace (level : Nat) (cs : List Char) :
    readValue (fuel + 1) ('\x7b' :: (newLine level ++ '\x22' :: cs)) =
      (readFields fuel ('\x22' :: cs)).map fun (fields, rest) => (.object fields, rest) := by
  rw [readValue]
  simp only [skipSpace_newLine, skipSpace_cons (c := '\x22') (by decide)]
  split
  · next heq => exact absurd (List.cons.inj heq).1 (by decide)
  · rfl

/-- Every value is read back from its text, before any rest that does not go on with a number. -/
lemma readValue_write (value : Json) : value.ReadBack := by
  induction value using induct with
  | null =>
    intro level fuel rest hrest hfuel
    obtain ⟨fuel, rfl⟩ := exists_fuel_eq hfuel
    rfl
  | bool b =>
    intro level fuel rest hrest hfuel
    obtain ⟨fuel, rfl⟩ := exists_fuel_eq hfuel
    cases b <;> rfl
  | integer n =>
    intro level fuel rest hrest hfuel
    obtain ⟨fuel, rfl⟩ := exists_fuel_eq hfuel
    obtain ⟨c, cs, hcs, hc⟩ := exists_toString_int_eq_cons n
    have hread := readNumber?_integer n hrest
    rw [write]
    rw [hcs, List.cons_append] at hread ⊢
    rw [readValue_number hc, hread]
  | decimal d =>
    intro level fuel rest hrest hfuel
    obtain ⟨fuel, rfl⟩ := exists_fuel_eq hfuel
    obtain ⟨c, cs, hcs, hc⟩ := exists_writeDecimal_eq_cons d
    have hread := readNumber?_writeDecimal d hrest
    rw [write]
    rw [hcs, List.cons_append] at hread ⊢
    rw [readValue_number hc, hread]
  | string s =>
    intro level fuel rest hrest hfuel
    obtain ⟨fuel, rfl⟩ := exists_fuel_eq hfuel
    rw [write, writeString_append, readValue, readString_flatMap_escapeChar]
    simp
  | array items ih =>
    intro level fuel rest hrest hfuel
    obtain ⟨fuel, rfl⟩ := exists_fuel_eq hfuel
    cases items with
    | nil => rfl
    | cons item items =>
      obtain ⟨c, cs, hcs, hspace, hc⟩ := exists_write_eq_cons (level + 1) item
      have hlength : (write (level + 1) item ++ writeItems (level + 1) items).length < fuel := by
        have hpos := length_newLine_pos (level + 1)
        simp only [write, List.cons_append, List.append_assoc, List.length_append,
          List.length_cons] at hfuel ⊢
        omega
      have hitems : readItems fuel (write (level + 1) item ++ (writeItems (level + 1) items ++
          (newLine level ++ ']' :: rest))) = some (item :: items, rest) :=
        readItems_write ih hlength
      simp only [write, List.cons_append, List.append_assoc, List.nil_append]
      rw [hcs, List.cons_append] at hitems ⊢
      rw [readValue_bracket hspace hc, hitems]
      rfl
  | object fields ih =>
    intro level fuel rest hrest hfuel
    obtain ⟨fuel, rfl⟩ := exists_fuel_eq hfuel
    cases fields with
    | nil => rfl
    | cons field fields =>
      obtain ⟨name, value⟩ := field
      have hlength : (write (level + 1) value ++ writeFields (level + 1) fields).length + 1 <
          fuel := by
        have hpos := length_newLine_pos (level + 1)
        simp only [write, List.cons_append, List.append_assoc, List.length_append,
          List.length_cons] at hfuel ⊢
        omega
      have hfields : readFields fuel (writeString name ++ (':' :: ' ' :: (write (level + 1) value ++
          (writeFields (level + 1) fields ++ (newLine level ++ '\x7d' :: rest))))) =
            some ((name, value) :: fields, rest) :=
        readFields_write ih hlength
      simp only [write, List.cons_append, List.append_assoc, List.nil_append]
      rw [writeString_append] at hfields ⊢
      rw [readValue_brace, hfields]
      rfl

/-- The text of a value holds the value and nothing else. -/
theorem parse?_pretty (value : Json) : parse? value.pretty = some value := by
  have hskip := skipSpace_write 0 value []
  have hread := readValue_write value 0 (2 * (write 0 value).length + 2) [] EndsNumber.nil
    (by omega)
  rw [List.append_nil] at hskip hread
  rw [parse?, pretty, String.toList_ofList]
  simp only [hskip, hread]
  rfl

lemma pretty_injective {a b : Json} (h : a.pretty = b.pretty) : a = b := by
  have hparse := congrArg parse? h
  rw [parse?_pretty, parse?_pretty] at hparse
  exact Option.some.inj hparse

end OutlineLint.Json

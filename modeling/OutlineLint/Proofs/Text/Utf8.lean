import Mathlib.Data.List.Basic
import Mathlib.Tactic.Lemma
import OutlineLint.Text.Utf8

/-!
# Endings of texts and of bytes

The UTF-8 form of a character starts with a byte that stands nowhere else in such a form. So the
UTF-8 form of a text is the end of that of another one only where the text is (`bytes_suffix_iff`).
-/

namespace OutlineLint.Text

open String (utf8EncodeChar)

variable {cs ds : List Char}

lemma bytes_eq_flatMap (s : String) : bytes s = s.toList.flatMap utf8EncodeChar := by
  have hbytes : s.toUTF8 = (s.toList.flatMap utf8EncodeChar).toByteArray := by
    rw [String.toUTF8_eq_toByteArray, ← String.utf8Encode_toList, List.utf8Encode]
  rw [bytes, hbytes]
  simp

lemma eq_of_flatMap_utf8EncodeChar_eq
    (h : cs.flatMap utf8EncodeChar = ds.flatMap utf8EncodeChar) : cs = ds := by
  have hbytes : bytes (String.ofList cs) = bytes (String.ofList ds) := by
    simpa [bytes_eq_flatMap] using h
  simpa using congrArg String.toList (bytes_injective hbytes)

/-- Where the form of a text starts inside the form of a character, it has the whole of it. -/
lemma eq_nil_of_utf8EncodeChar_eq_append {c d : Char} {before rest more : List UInt8} {b : UInt8}
    (hc : utf8EncodeChar c = before ++ b :: rest) (hd : utf8EncodeChar d = b :: more) :
    before = [] := by
  have hfirst : b.IsUTF8FirstByte := by
    have h := UInt8.isUTF8FirstByte_getElem_zero_utf8EncodeChar (c := d)
    simpa [hd] using h
  have hlength : before.length < (utf8EncodeChar c).length := by simp [hc]
  have hindex : (utf8EncodeChar c)[before.length].IsUTF8FirstByte ↔ before.length = 0 :=
    UInt8.isUTF8FirstByte_getElem_utf8EncodeChar
  simpa [hc, hfirst] using hindex

/-- The form of a character is not the start of that of another one. -/
lemma eq_of_utf8EncodeChar_append_eq {c d : Char} {xs ys : List UInt8}
    (h : utf8EncodeChar c ++ xs = utf8EncodeChar d ++ ys) : c = d := by
  have hdecode (e : Char) (zs : List UInt8) :
      (utf8EncodeChar e ++ zs).toByteArray.utf8DecodeChar? 0 = some e := by
    rw [List.toByteArray_append]
    exact ByteArray.utf8DecodeChar?_utf8EncodeChar_append
  have hsome : some c = some d := by rw [← hdecode c xs, h, hdecode d ys]
  exact Option.some.inj hsome

/-- A byte that is the form of a character by itself stands in no other form. -/
lemma eq_of_mem_utf8EncodeChar {b : UInt8} {c d : Char} (hd : utf8EncodeChar d = [b])
    (h : b ∈ utf8EncodeChar c) : c = d := by
  obtain ⟨before, rest, hc⟩ := List.append_of_mem h
  have hnil : before = [] := eq_nil_of_utf8EncodeChar_eq_append hc hd
  rw [hnil, List.nil_append, ← List.singleton_append, ← hd] at hc
  have hsame : utf8EncodeChar c ++ [] = utf8EncodeChar d ++ rest := by rw [List.append_nil, hc]
  exact eq_of_utf8EncodeChar_append_eq hsame

lemma mem_bytes_iff {b : UInt8} {d : Char} (hd : utf8EncodeChar d = [b]) {s : String} :
    b ∈ bytes s ↔ d ∈ s.toList := by
  rw [bytes_eq_flatMap, List.mem_flatMap]
  constructor
  · rintro ⟨c, hc, hb⟩
    rwa [← eq_of_mem_utf8EncodeChar hd hb]
  · intro h
    exact ⟨d, h, by simp [hd]⟩

lemma suffix_of_flatMap_suffix (h : cs.flatMap utf8EncodeChar <:+ ds.flatMap utf8EncodeChar) :
    cs <:+ ds := by
  induction ds with
  | nil => simpa [← List.eq_nil_iff_forall_not_mem] using h
  | cons d ds ih =>
    obtain ⟨before, hbefore⟩ := h
    rw [List.flatMap_cons, List.append_eq_append_iff] at hbefore
    -- the form of `cs` starts in that of `d` or after it
    rcases hbefore with ⟨rest, hd, hcs⟩ | ⟨between, -, hds⟩
    · cases rest with
      | nil => exact (ih ⟨[], by simpa using hcs⟩).trans (List.suffix_cons d ds)
      | cons b rest =>
        have hnil : before = [] := by
          cases cs with
          | nil => simp at hcs
          | cons c cs =>
            obtain ⟨first, more, hc⟩ := List.exists_cons_of_ne_nil
              (String.utf8EncodeChar_ne_nil (c := c))
            rw [List.flatMap_cons, hc, List.cons_append, List.cons_append, List.cons.injEq] at hcs
            exact eq_nil_of_utf8EncodeChar_eq_append hd (hcs.1 ▸ hc)
        rw [hnil, List.nil_append] at hd
        have hsame : cs = d :: ds := by
          apply eq_of_flatMap_utf8EncodeChar_eq
          rw [List.flatMap_cons, hd, hcs]
        exact hsame ▸ List.suffix_rfl
    · exact (ih ⟨between, hds.symm⟩).trans (List.suffix_cons d ds)

/-- A text ends with another one if and only if the bytes do. -/
lemma bytes_suffix_iff {s t : String} : bytes s <:+ bytes t ↔ s.toList <:+ t.toList := by
  rw [bytes_eq_flatMap, bytes_eq_flatMap]
  constructor
  · exact suffix_of_flatMap_suffix
  · rintro ⟨before, h⟩
    rw [← h, List.flatMap_append]
    exact List.suffix_append _ _

end OutlineLint.Text

import OutlineLint.Proofs.Text.Utf8

/-!
# Bytes shown as text

A byte below `0x80` is shown as the character of that number, and no other bytes are shown as one:
neither the replacement character nor one that is read from several bytes is among these characters
(`le_continueNumber_lead`). So a slash is shown only for a slash (`exists_byte_of_mem_lossy`).
-/

namespace OutlineLint.Text

variable {first low high : UInt8} {n : Nat} {bs rest : List UInt8} {c : Char}

/-! ### Characters of several bytes -/

lemma le_continueNumber (lead : Nat) (bs : List UInt8) : lead ≤ continueNumber lead bs := by
  induction bs generalizing lead with
  | nil => exact Nat.le_refl _
  | cons b bs ih =>
    have hlead : lead ≤ lead * 64 + b.toNat % 64 := by omega
    exact Nat.le_trans hlead (ih _)

lemma continuationLength_eq_succ (h : continuationLength low high (n + 1) rest = n + 1) :
    ∃ b more, rest = b :: more ∧ low ≤ b ∧ b ≤ high ∧
      continuationLength 0x80 0xBF n more = n := by
  cases rest with
  | nil => simp [continuationLength] at h
  | cons b more =>
    rw [continuationLength] at h
    split at h
    · next hrange =>
      simp only [Bool.and_eq_true, decide_eq_true_eq] at hrange
      exact ⟨b, more, rfl, hrange.1, hrange.2, Nat.succ.inj h⟩
    · contradiction

/-- In a sequence of two bytes the first one gives a high part of at least two, and in a longer one
the second byte makes up for a first one that gives zero. -/
lemma lead_of_sequenceShape? (h : sequenceShape? first = some (low, high, n)) :
    n = 1 ∧ 2 ≤ first.toNat % (64 >>> n) ∨
      2 ≤ n ∧ (1 ≤ first.toNat % (64 >>> n) ∨ 0x90 ≤ low.toNat ∧ high.toNat ≤ 0xBF) := by
  simp only [sequenceShape?, Bool.and_eq_true, decide_eq_true_eq, UInt8.le_iff_toNat_le,
    UInt8.reduceToNat] at h
  split_ifs at h with hC2 hE0 hED hE1 hF0 hF1 hF4 <;> cases h
  · simp
    omega
  · simp [hE0]
  · simp [hED]
  · simp
    omega
  · simp [hF0]
  · simp
    omega
  · simp [hF4]

/-- A character of several bytes has at least the number `0x80`. -/
lemma le_continueNumber_lead (h : sequenceShape? first = some (low, high, n))
    (hlength : continuationLength low high n rest = n) :
    0x80 ≤ continueNumber (first.toNat % (64 >>> n)) (rest.take n) := by
  have hlead := lead_of_sequenceShape? h
  generalize first.toNat % (64 >>> n) = lead at hlead
  rcases hlead with ⟨rfl, htwo⟩ | ⟨htwo, hlead⟩
  · obtain ⟨b, more, rfl, -⟩ := continuationLength_eq_succ hlength
    calc 0x80 ≤ lead * 64 + b.toNat % 64 := by omega
      _ = continueNumber lead ((b :: more).take 1) := rfl
  · obtain ⟨m, rfl⟩ : ∃ m, n = m + 2 := ⟨n - 2, by omega⟩
    obtain ⟨b, more, rfl, hlow, hhigh, hmore⟩ := continuationLength_eq_succ hlength
    obtain ⟨b', more', rfl, -⟩ := continuationLength_eq_succ hmore
    rw [UInt8.le_iff_toNat_le] at hlow hhigh
    have hhead : 0x10 ≤ lead * 64 + b.toNat % 64 := by omega
    calc 0x80 ≤ (lead * 64 + b.toNat % 64) * 64 + b'.toNat % 64 := by omega
      _ ≤ continueNumber ((lead * 64 + b.toNat % 64) * 64 + b'.toNat % 64) (more'.take m) :=
          le_continueNumber _ _
      _ = continueNumber lead ((b :: b' :: more').take (m + 2)) := rfl

/-! ### Characters of one byte -/

lemma toNat_ofNat_eq_or (k : Nat) : (Char.ofNat k).toNat = k ∨ (Char.ofNat k).toNat = 0 := by
  rw [Char.ofNat]
  by_cases hvalid : k.isValidChar
  · rw [dif_pos hvalid]
    exact .inl rfl
  · rw [dif_neg hvalid]
    exact .inr rfl

/-- If the first character is below `0x80`, it is the first byte. -/
lemma eq_of_readChar (hc : c.toNat < 0x80) (hzero : c.toNat ≠ 0)
    (h : (readChar first rest).1 = c) : first.toNat = c.toNat := by
  rw [readChar] at h
  split at h
  · next hfirst =>
    rw [← h] at hzero ⊢
    exact ((toNat_ofNat_eq_or _).resolve_right hzero).symm
  · exfalso
    split at h
    · rw [← h] at hc
      exact absurd hc (by decide)
    · next low high n hshape =>
      dsimp only at h
      split at h
      · next hlength =>
        rw [← h] at hc hzero
        have hnumber := (toNat_ofNat_eq_or _).resolve_right hzero
        have hle := le_continueNumber_lead hshape hlength
        exact absurd hc (by rw [hnumber]; omega)
      · have hreplaced : replacement = c := h
        rw [← hreplaced] at hc
        exact absurd hc (by decide)

/-- A character below `0x80` is shown only for the byte of this number. -/
lemma exists_byte_of_mem_lossyChars (hc : c.toNat < 0x80) (hzero : c.toNat ≠ 0)
    (h : c ∈ lossyChars bs) : ∃ b ∈ bs, b.toNat = c.toNat := by
  fun_induction lossyChars bs with
  | case1 => contradiction
  | case2 first rest d used hread ih =>
    rcases List.mem_cons.mp h with rfl | h
    · exact ⟨first, List.mem_cons_self, eq_of_readChar hc hzero (congrArg Prod.fst hread)⟩
    · obtain ⟨b, hb, hbyte⟩ := ih h
      exact ⟨b, List.mem_cons_of_mem _ (List.mem_of_mem_drop hb), hbyte⟩

lemma exists_byte_of_mem_toList {s : String} (hc : c.toNat < 0x80) (h : c ∈ s.toList) :
    ∃ b ∈ bytes s, b.toNat = c.toNat := by
  have hsize : c.utf8Size = 1 := by
    rw [Char.utf8Size_eq_one_iff, UInt32.le_iff_toNat_le]
    exact Nat.le_of_lt_succ hc
  refine ⟨c.val.toUInt8, ?_, ?_⟩
  · rw [bytes_eq_flatMap]
    exact List.mem_flatMap.mpr ⟨c, h, by simp [String.utf8EncodeChar_eq_singleton hsize]⟩
  · rw [UInt32.toNat_toUInt8]
    exact Nat.mod_eq_of_lt (Nat.lt_trans hc (by decide))

/-- What is shown has a character below `0x80` only where there is the byte of this number. -/
lemma exists_byte_of_mem_lossy (hc : c.toNat < 0x80) (hzero : c.toNat ≠ 0)
    (h : c ∈ (lossy bs).toList) : ∃ b ∈ bs, b.toNat = c.toNat := by
  rw [lossy] at h
  cases htext : ofBytes? bs with
  | none =>
    rw [htext, Option.getD_none, String.toList_ofList] at h
    exact exists_byte_of_mem_lossyChars hc hzero h
  | some s =>
    rw [htext, Option.getD_some] at h
    rw [← bytes_of_ofBytes? htext]
    exact exists_byte_of_mem_toList hc h

lemma lossy_ne_empty (h : bs ≠ []) : lossy bs ≠ "" := by
  rw [lossy]
  cases htext : ofBytes? bs with
  | none =>
    obtain ⟨first, rest, rfl⟩ := List.exists_cons_of_ne_nil h
    rw [Option.getD_none, lossyChars]
    simp
  | some s =>
    rw [Option.getD_some]
    rintro rfl
    exact h (bytes_of_ofBytes? htext).symm

end OutlineLint.Text

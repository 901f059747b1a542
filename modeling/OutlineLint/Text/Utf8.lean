/-!
# UTF-8

Names of files are bytes, and most of them are the UTF-8 form of a text. Bytes that are not are
still shown: each sequence that breaks off, taken as long as it could still have gone on, is replaced
by one replacement character.
-/

namespace OutlineLint.Text

/-- The UTF-8 form of a text. -/
def bytes (s : String) : List UInt8 :=
  s.toUTF8.data.toList

/-- The text whose UTF-8 form the bytes are, if there is one. -/
def ofBytes? (bs : List UInt8) : Option String :=
  String.fromUTF8? ⟨bs.toArray⟩

@[simp] theorem ofBytes?_bytes (s : String) : ofBytes? (bytes s) = some s := by
  have h : (⟨(bytes s).toArray⟩ : ByteArray) = s.toByteArray := by simp [bytes]
  simp [ofBytes?, String.fromUTF8?, h, s.isValidUTF8, String.fromUTF8]

theorem bytes_of_ofBytes? {bs : List UInt8} {s : String} (h : ofBytes? bs = some s) :
    bytes s = bs := by
  simp only [ofBytes?, String.fromUTF8?, Option.dite_none_right_eq_some, Option.some.injEq] at h
  obtain ⟨-, rfl⟩ := h
  simp [bytes, String.fromUTF8]

theorem bytes_injective {s t : String} (h : bytes s = bytes t) : s = t := by
  have := congrArg ofBytes? h
  simpa using this

theorem bytes_append (s t : String) : bytes (s ++ t) = bytes s ++ bytes t := by
  simp [bytes]

/-! ### Bytes that are no text -/

/-- What stands for bytes that are no text. -/
def replacement : Char := '\ufffd'

/-- The range of the second byte of a sequence with the given first byte, and the number of bytes
after the first; `none` if no longer sequence starts with this byte. -/
def sequenceShape? (first : UInt8) : Option (UInt8 × UInt8 × Nat) :=
  if 0xC2 ≤ first && first ≤ 0xDF then some (0x80, 0xBF, 1)
  else if first = 0xE0 then some (0xA0, 0xBF, 2)
  else if first = 0xED then some (0x80, 0x9F, 2)
  else if 0xE1 ≤ first && first ≤ 0xEF then some (0x80, 0xBF, 2)
  else if first = 0xF0 then some (0x90, 0xBF, 3)
  else if 0xF1 ≤ first && first ≤ 0xF3 then some (0x80, 0xBF, 3)
  else if first = 0xF4 then some (0x80, 0x8F, 3)
  else none

/-- The number of bytes, at most `n`, that continue a sequence whose next byte is in the range. -/
def continuationLength (low high : UInt8) : Nat → List UInt8 → Nat
  | n + 1, b :: rest =>
    if low ≤ b && b ≤ high then continuationLength 0x80 0xBF n rest + 1 else 0
  | _, _ => 0

/-- The number spelled by the low six bits of each byte, after the given high part. -/
def continueNumber (high : Nat) (bs : List UInt8) : Nat :=
  bs.foldl (fun n b => n * 64 + b.toNat % 64) high

/-- The character at the start of the bytes, given the first of them, and how many of the others
belong to it. -/
def readChar (first : UInt8) (rest : List UInt8) : Char × Nat :=
  if first < 0x80 then (Char.ofNat first.toNat, 0)
  else
    match sequenceShape? first with
    | none => (replacement, 0)
    | some (low, high, n) =>
      let k := continuationLength low high n rest
      let lead := first.toNat % (64 >>> n)
      if k = n then (Char.ofNat (continueNumber lead (rest.take n)), n) else (replacement, k)

/-- Reads bytes as text, with a replacement character for each sequence that is none. -/
def lossyChars : List UInt8 → List Char
  | [] => []
  | first :: rest =>
    let (c, used) := readChar first rest
    c :: lossyChars (rest.drop used)
  termination_by bs => bs.length
  decreasing_by
    rw [List.length_drop, List.length_cons]
    omega

/-- The text of the bytes, with replacement characters where they are none. -/
def lossy (bs : List UInt8) : String :=
  (ofBytes? bs).getD (String.ofList (lossyChars bs))

@[simp] theorem lossy_bytes (s : String) : lossy (bytes s) = s := by
  simp [lossy]

end OutlineLint.Text

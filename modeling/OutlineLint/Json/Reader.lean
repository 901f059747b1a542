import OutlineLint.Json.Basic

/-!
# Reading JSON

The reader accepts the texts of RFC 8259 and refuses all others. Every value, item and field takes
at least one character, so the length of the text bounds the depth of the recursion.
-/

namespace OutlineLint.Json

/-! ### Blanks and strings -/

def isSpace (c : Char) : Bool := c == ' ' || c == '\t' || c == '\n' || c == '\r'

def skipSpace (cs : List Char) : List Char := cs.dropWhile isSpace

/-- The value of a hexadecimal digit. -/
def hexValue? (c : Char) : Option Nat :=
  if c.isDigit then some (c.toNat - 48)
  else if 'a' ≤ c ∧ c ≤ 'f' then some (c.toNat - 87)
  else if 'A' ≤ c ∧ c ≤ 'F' then some (c.toNat - 55)
  else none

/-- The number that four hexadecimal digits spell. -/
def fourDigits? (a b c d : Char) : Option Nat := do
  return (((← hexValue? a) * 16 + (← hexValue? b)) * 16 + (← hexValue? c)) * 16 + (← hexValue? d)

/-- The character that a letter stands for after a backslash. -/
def unescape? (c : Char) : Option Char :=
  if c = '\x22' ∨ c = '\\' ∨ c = '/' then some c
  else if c = 'b' then some '\x08'
  else if c = 'f' then some '\x0c'
  else if c = 'n' then some '\n'
  else if c = 'r' then some '\r'
  else if c = 't' then some '\t'
  else none

def isHighSurrogate (n : Nat) : Bool := 0xD800 ≤ n && n ≤ 0xDBFF

def isLowSurrogate (n : Nat) : Bool := 0xDC00 ≤ n && n ≤ 0xDFFF

/-- The character of two surrogates. -/
def pairChar (high low : Nat) : Char :=
  Char.ofNat (0x10000 + (high - 0xD800) * 0x400 + (low - 0xDC00))

/-- Reads a string after its first quote. The first argument holds what was read, latest first. -/
def readString (done : List Char) : List Char → Option (List Char × List Char)
  | [] => none
  | '\x22' :: rest => some (done.reverse, rest)
  | '\\' :: 'u' :: a :: b :: c :: d :: rest =>
    match fourDigits? a b c d with
    | none => none
    | some n =>
      if isHighSurrogate n then
        match rest with
        | '\\' :: 'u' :: a' :: b' :: c' :: d' :: rest' =>
          match fourDigits? a' b' c' d' with
          | none => none
          | some m => if isLowSurrogate m then readString (pairChar n m :: done) rest' else none
        | _ => none
      else if isLowSurrogate n then none
      else readString (Char.ofNat n :: done) rest
  | '\\' :: c :: rest =>
    match unescape? c with
    | none => none
    | some c => readString (c :: done) rest
  | c :: rest =>
    if c = '\\' ∨ c.toNat < 0x20 then none else readString (c :: done) rest

/-! ### Numbers -/

/-- The number that decimal digits spell. -/
def digitsValue (cs : List Char) : Nat := cs.foldl (fun n c => n * 10 + (c.toNat - 48)) 0

/-- The digits at the start, and the rest. -/
def spanDigits (cs : List Char) : List Char × List Char :=
  (cs.takeWhile Char.isDigit, cs.dropWhile Char.isDigit)

/-- Reads the digits after a point, if there is a point. -/
def readFraction? : List Char → Option (List Char × List Char)
  | '.' :: rest =>
    let (digits, rest) := spanDigits rest
    if digits.isEmpty then none else some (digits, rest)
  | cs => some ([], cs)

/-- Reads the digits of a power of ten, after its letter. -/
def readPower? (negative : Bool) (cs : List Char) : Option (Int × List Char) :=
  let (digits, rest) := spanDigits cs
  if digits.isEmpty then none
  else
    let value : Int := digitsValue digits
    some (if negative then -value else value, rest)

/-- Reads a power of ten, if there is one. -/
def readExponent? : List Char → Option (Option Int × List Char)
  | c :: rest =>
    if c = 'e' ∨ c = 'E' then
      let power :=
        match rest with
        | '+' :: rest => readPower? false rest
        | '-' :: rest => readPower? true rest
        | rest => readPower? false rest
      power.map fun (value, rest) => (some value, rest)
    else some (none, c :: rest)
  | [] => some (none, [])

/-- Reads a number without its sign. Of several digits the first is not a zero. A zero with a minus
sign is no integer, since integers have no signed zero. -/
def readMagnitude? (negative : Bool) (cs : List Char) : Option (Json × List Char) := do
  let (whole, rest) := spanDigits cs
  guard (!whole.isEmpty && (whole.length = 1 || whole.head? != some '0'))
  let (fraction, rest) ← readFraction? rest
  let (power, rest) ← readExponent? rest
  let digits := digitsValue (whole ++ fraction)
  if fraction.isEmpty && power.isNone && !(negative && digits = 0) then
    return (integer (if negative then -digits else digits), rest)
  else
    return (decimal ⟨negative, digits, power.getD 0 - fraction.length⟩, rest)

def readNumber? : List Char → Option (Json × List Char)
  | '-' :: rest => readMagnitude? true rest
  | cs => readMagnitude? false cs

/-! ### Values -/

mutual

/-- Reads a value at the start of a text, with recursion no deeper than the first argument. -/
def readValue : Nat → List Char → Option (Json × List Char)
  | 0, _ => none
  | fuel + 1, cs =>
    match cs with
    | 'n' :: 'u' :: 'l' :: 'l' :: rest => some (null, rest)
    | 't' :: 'r' :: 'u' :: 'e' :: rest => some (bool true, rest)
    | 'f' :: 'a' :: 'l' :: 's' :: 'e' :: rest => some (bool false, rest)
    | '\x22' :: rest => (readString [] rest).map fun (s, rest) => (string (String.ofList s), rest)
    | '[' :: rest =>
      match skipSpace rest with
      | ']' :: rest => some (array [], rest)
      | rest => (readItems fuel rest).map fun (items, rest) => (array items, rest)
    | '\x7b' :: rest =>
      match skipSpace rest with
      | '\x7d' :: rest => some (object [], rest)
      | rest => (readFields fuel rest).map fun (fields, rest) => (object fields, rest)
    | cs => readNumber? cs

/-- Reads the items of an array up to its end. -/
def readItems : Nat → List Char → Option (List Json × List Char)
  | 0, _ => none
  | fuel + 1, cs =>
    match readValue fuel cs with
    | none => none
    | some (item, rest) =>
      match skipSpace rest with
      | ']' :: rest => some ([item], rest)
      | ',' :: rest =>
        (readItems fuel (skipSpace rest)).map fun (items, rest) => (item :: items, rest)
      | _ => none

/-- Reads the fields of an object up to its end. -/
def readFields : Nat → List Char → Option (List (String × Json) × List Char)
  | 0, _ => none
  | fuel + 1, '\x22' :: rest =>
    match readString [] rest with
    | none => none
    | some (name, rest) =>
      match skipSpace rest with
      | ':' :: rest =>
        match readValue fuel (skipSpace rest) with
        | none => none
        | some (value, rest) =>
          match skipSpace rest with
          | '\x7d' :: rest => some ([(String.ofList name, value)], rest)
          | ',' :: rest =>
            (readFields fuel (skipSpace rest)).map fun (fields, rest) =>
              ((String.ofList name, value) :: fields, rest)
          | _ => none
      | _ => none
  | _ + 1, _ => none

end

/-- Reads a text that holds one value and nothing else. -/
def parse? (text : String) : Option Json :=
  let cs := text.toList
  match readValue (2 * cs.length + 2) (skipSpace cs) with
  | none => none
  | some (value, rest) => if (skipSpace rest).isEmpty then some value else none

end OutlineLint.Json

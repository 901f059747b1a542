import OutlineLint.Toml.Text

/-!
# Numbers, dates and times of TOML

Underscores may stand between digits. Integers have a place in 64 bits; a number too large for
double precision is refused, unless it is negative. A date has a day of the calendar.
-/

namespace OutlineLint.Toml

/-! ### Digits -/

/-- The digits at the start of a text, with single underscores between them. The argument tells
whether a digit comes right before. -/
def digitRun (isDigit : Char → Bool) (afterDigit : Bool) : List Char → List Char × List Char
  | '_' :: c :: rest =>
    if afterDigit && isDigit c then
      let (digits, rest) := digitRun isDigit true rest
      (c :: digits, rest)
    else ([], '_' :: c :: rest)
  | c :: rest =>
    if isDigit c then
      let (digits, rest) := digitRun isDigit true rest
      (c :: digits, rest)
    else ([], c :: rest)
  | [] => ([], [])

/-- Reads one digit or more. -/
def readDigits (isDigit : Char → Bool) (cs : List Char) : Read (List Char) :=
  match digitRun isDigit false cs with
  | ([], _) => none
  | (digits, rest) => some (digits, rest)

/-- The value of digits in a base. -/
def digitsValue (base : Nat) (digits : List Char) : Nat :=
  digits.foldl (fun n c => n * base + (hexValue? c).getD 0) 0

/-- Reads a sign, if there is one: whether it is a minus sign. -/
def readSign : List Char → Bool × List Char
  | '+' :: rest => (false, rest)
  | '-' :: rest => (true, rest)
  | cs => (false, cs)

/-- Reads decimal digits of which the first is no zero, or a single zero. -/
def readWhole (cs : List Char) : Read (List Char) :=
  match cs with
  | '0' :: rest => some (['0'], rest)
  | cs => readDigits Char.isDigit cs

/-! ### Integers -/

/-- An integer with a sign that has a place in 64 bits. -/
def integer64? (n : Int) : Option Toml :=
  if Int64.minValue.toInt ≤ n ∧ n ≤ Int64.maxValue.toInt then some (.integer n) else none

def isOctal (c : Char) : Bool := '0' ≤ c && c ≤ '7'

def isBinary (c : Char) : Bool := c == '0' || c == '1'

/-- Reads an integer in the given base, after its mark. -/
def readBased (base : Nat) (isDigit : Char → Bool) (cs : List Char) : Read Toml :=
  match readDigits isDigit cs with
  | none => none
  | some (digits, rest) => (integer64? (digitsValue base digits)).map (·, rest)

/-- Reads an integer. -/
def readInteger (cs : List Char) : Read Toml :=
  match cs with
  | '0' :: 'x' :: rest => readBased 16 (fun c => (hexValue? c).isSome) rest
  | '0' :: 'o' :: rest => readBased 8 isOctal rest
  | '0' :: 'b' :: rest => readBased 2 isBinary rest
  | cs =>
    let (negative, rest) := readSign cs
    match readWhole rest with
    | none => none
    | some (digits, rest) =>
      let n : Int := digitsValue 10 digits
      (integer64? (if negative then -n else n)).map (·, rest)

/-! ### Numbers with a fraction or a power of ten -/

/-- Reads a point and the digits after it. -/
def readFraction : List Char → Read (List Char)
  | '.' :: rest => readDigits Char.isDigit rest
  | _ => none

/-- Reads a power of ten. -/
def readPower : List Char → Read Int
  | c :: rest =>
    if c = 'e' ∨ c = 'E' then
      let (negative, rest) := readSign rest
      match readDigits Char.isDigit rest with
      | none => none
      | some (digits, rest) =>
        let n : Int := digitsValue 10 digits
        some (if negative then -n else n, rest)
    else none
  | [] => none

/-- The number with the given parts, if it is not too large. -/
def finite? (negative : Bool) (whole fraction : List Char) (power : Int) : Option Toml :=
  let value : Decimal := ⟨negative, digitsValue 10 (whole ++ fraction), power - fraction.length⟩
  if !negative && value.round?.isNone then none else some (.number (.finite value))

/-- Reads a number that has a fraction, a power of ten, or both. -/
def readFinite (cs : List Char) : Read Toml :=
  let (negative, rest) := readSign cs
  match readWhole rest with
  | none => none
  | some (whole, rest) =>
    match readFraction rest with
    | none =>
      match readPower rest with
      | none => none
      | some (power, rest) => (finite? negative whole [] power).map (·, rest)
    | some (fraction, rest) =>
      match readPower rest with
      | none => (finite? negative whole fraction 0).map (·, rest)
      | some (power, rest) => (finite? negative whole fraction power).map (·, rest)

/-- Reads one of the special numbers. -/
def readSpecial (cs : List Char) : Read Toml :=
  match readSign cs with
  | (negative, 'i' :: 'n' :: 'f' :: rest) => some (.number (.infinite negative), rest)
  | (_, 'n' :: 'a' :: 'n' :: rest) => some (.number .nan, rest)
  | _ => none

/-! ### Dates and times -/

/-- Reads exactly `count` digits, which spell a number of the given range. -/
def readField (count low high : Nat) (cs : List Char) : Read Nat :=
  let digits := cs.take count
  let n := digitsValue 10 digits
  if digits.length = count ∧ digits.all Char.isDigit ∧ low ≤ n ∧ n ≤ high then
    some (n, cs.drop count)
  else none

/-- Reads a given character. -/
def expect (c : Char) : List Char → Option (List Char)
  | d :: rest => if d = c then some rest else none
  | [] => none

def isLeapYear (year : Nat) : Bool := year % 4 = 0 && (year % 100 != 0 || year % 400 = 0)

def daysInMonth (year month : Nat) : Nat :=
  if month = 2 then (if isLeapYear year then 29 else 28)
  else if month = 4 ∨ month = 6 ∨ month = 9 ∨ month = 11 then 30
  else 31

/-- The characters after a date. -/
def afterDate (cs : List Char) : Option (List Char) := do
  let (year, cs) ← readField 4 0 9999 cs
  let cs ← expect '-' cs
  let (month, cs) ← readField 2 1 12 cs
  let cs ← expect '-' cs
  let (_, cs) ← readField 2 1 (daysInMonth year month) cs
  return cs

/-- The characters after a fraction of a second, if there is one. -/
def afterFraction (cs : List Char) : List Char :=
  match cs with
  | '.' :: rest =>
    match rest.span Char.isDigit with
    | ([], _) => cs
    | (_, rest) => rest
  | cs => cs

/-- The characters after a time of day. A minute may have a leap second. -/
def afterTime (cs : List Char) : Option (List Char) := do
  let (_, cs) ← readField 2 0 23 cs
  let cs ← expect ':' cs
  let (_, cs) ← readField 2 0 59 cs
  let cs ← expect ':' cs
  let (_, cs) ← readField 2 0 60 cs
  return afterFraction cs

/-- The characters after an offset from universal time, if there is one. -/
def afterOffset (cs : List Char) : List Char :=
  match cs with
  | 'Z' :: rest => rest
  | 'z' :: rest => rest
  | c :: rest =>
    if c = '+' ∨ c = '-' then
      let after : Option (List Char) := do
        let (_, cs) ← readField 2 0 23 rest
        let cs ← expect ':' cs
        let (_, cs) ← readField 2 0 59 cs
        return cs
      after.getD cs
    else cs
  | [] => []

/-- The characters after a time that follows a date, if there is one. -/
def afterDateTime (cs : List Char) : List Char :=
  match cs with
  | c :: rest =>
    if c = 'T' ∨ c = 't' ∨ c = ' ' then
      match afterTime rest with
      | some rest => afterOffset rest
      | none => cs
    else cs
  | [] => []

/-- Reads a date, a time, or both. -/
def readDateTime (cs : List Char) : Read Toml :=
  match afterDate cs with
  | some rest => some (.dateTime, afterDateTime rest)
  | none => (afterTime cs).map (.dateTime, ·)

/-- Reads a date, a time or a number. -/
def readNumeric (cs : List Char) : Read Toml :=
  (readDateTime cs).or ((readFinite cs).or ((readSpecial cs).or (readInteger cs)))

end OutlineLint.Toml

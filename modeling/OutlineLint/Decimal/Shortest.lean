import OutlineLint.Decimal.Basic

/-!
# The shortest text of a number

A number in double precision is written with the fewest digits that are still read as the same
number; of several such the nearest to it is taken. Which of two equally near ones this is, and which
numbers are written with a power of ten, is a matter of style.
-/

namespace OutlineLint.Decimal

/-! ### The digits -/

/-- Which of two equally near numbers is taken: the greater one, or the one whose last digit is
even. -/
inductive Tie
  | up
  | even
  deriving DecidableEq, Repr

/-- Whether the number above `below` is taken rather than `below` itself. -/
def Tie.takesUpper (tie : Tie) (below : Nat) : Bool :=
  match tie with
  | up => true
  | even => below % 2 = 1

/-- A positive decimal number `digits · 10 ^ exponent`. -/
structure Digits where
  digits : Nat
  exponent : Int
  deriving DecidableEq, Repr

/-- The bounds, as fractions over `4 · 2 ^ -exponent`, between which numbers are rounded to `b`. -/
def Binary.bounds (b : Binary) : Nat × Nat :=
  let m := 4 * b.significand
  let below := if b.significand = significandBound / 2 && minExponent < b.exponent then 1 else 2
  (m - below, m + 2)

/-- Whether `n · 10 ^ e` is rounded to `b`. The bounds themselves are if the significand is even. -/
def Binary.roundsFrom (b : Binary) (n : Nat) (e : Int) : Bool :=
  let (low, high) := b.bounds
  let (tn, td) := powFraction 10 e
  let (bn, bd) := powFraction 2 (b.exponent - 2)
  let value := n * tn * bd
  let low := low * bn * td
  let high := high * bn * td
  if b.significand % 2 = 0 then low ≤ value && value ≤ high else low < value && value < high

/-- The point of the grid of multiples of `10 ^ e` that is rounded to `b` and nearest to it. -/
def Binary.onGrid? (tie : Tie) (b : Binary) (e : Int) : Option Digits :=
  let (tn, td) := powFraction 10 e
  let (bn, bd) := powFraction 2 b.exponent
  let num := b.significand * bn * td
  let den := bd * tn
  let below := num / den
  let twice := 2 * (num % den)
  let takesUpper := den < twice || (twice = den && tie.takesUpper below)
  let candidates := if takesUpper then [below + 1, below] else [below, below + 1]
  (candidates.find? fun n => n != 0 && b.roundsFrom n e).map (⟨·, e⟩)

/-- Tries ever finer grids, at most as many as the first argument says. -/
def Binary.shortestFrom (tie : Tie) (b : Binary) : Nat → Int → Digits
  | 0, e => ⟨0, e⟩
  | tries + 1, e =>
    match b.onGrid? tie e with
    | some digits => digits
    | none => b.shortestFrom tie tries (e - 1)

/-- The shortest decimal number that is rounded to `b`. The grids go from above the greatest number
in double precision to below the least. -/
def Binary.shortest (tie : Tie) (b : Binary) : Digits :=
  if b.significand = 0 then ⟨0, 0⟩ else b.shortestFrom tie 700 310

/-! ### The text -/

/-- How numbers are written: without a power of ten if the point comes after `least` to `greatest`
digits, otherwise with one. `none` stands for no limit. -/
structure Style where
  tie : Tie
  least : Option Int
  greatest : Option Int

/-- Every number is written without a power of ten. -/
def positional : Style := ⟨.up, none, none⟩

/-- Very large and very small numbers are written with a power of ten. -/
def compact : Style := ⟨.even, some (-4), some 16⟩

def Style.allows (style : Style) (point : Int) : Bool :=
  style.least.all (· ≤ point) && style.greatest.all (point ≤ ·)

def zeros (n : Nat) : String := String.ofList (List.replicate n '0')

/-- The text of a power of ten. Its sign is always written. -/
def powerText (power : Int) : String :=
  "e" ++ (if 0 ≤ power then "+" else "-") ++ Nat.repr power.natAbs

/-- The text of a magnitude. There is always a digit on both sides of a point. -/
def Digits.text (style : Style) (d : Digits) : String :=
  let digits := Nat.repr d.digits
  let point := (digits.length : Int) + d.exponent
  if d.digits = 0 then "0.0"
  else if !style.allows point then
    let tail := String.ofList (digits.toList.drop 1)
    String.ofList (digits.toList.take 1) ++ (if tail.isEmpty then "" else "." ++ tail) ++
      powerText (point - 1)
  else if 0 ≤ d.exponent then digits ++ zeros d.exponent.toNat ++ ".0"
  else if 0 < point then
    String.ofList (digits.toList.take point.toNat) ++ "." ++
      String.ofList (digits.toList.drop point.toNat)
  else "0." ++ zeros (-point).toNat ++ digits

/-- The text of a number with the given sign and magnitude; a magnitude out of range is `none`. -/
def signedText (style : Style) (negative : Bool) (magnitude : Option Binary) : String :=
  (if negative then "-" else "") ++
    match magnitude with
    | none => "inf"
    | some b => (b.shortest style.tie).text style

/-- The text of a decimal number after rounding it to double precision. -/
def text (style : Style) (d : Decimal) : String := signedText style d.negative d.round?

end OutlineLint.Decimal

/-!
# Decimal numbers

A decimal number as it is written, `± digits · 10 ^ exponent`, and the nearest number of the form
`significand · 2 ^ exponent` that has 53 binary places and an exponent in the range of double
precision. All arithmetic is exact.
-/

namespace OutlineLint

/-- The number `± digits · 10 ^ exponent`. -/
structure Decimal where
  negative : Bool
  digits : Nat
  exponent : Int
  deriving DecidableEq, Repr

namespace Decimal

/-- The number `significand · 2 ^ exponent`. -/
structure Binary where
  significand : Nat
  exponent : Int
  deriving DecidableEq, Repr

/-- The least exponent in double precision. -/
def minExponent : Int := -1074

/-- The greatest exponent in double precision. -/
def maxExponent : Int := 971

/-- The bound on significands in double precision. -/
def significandBound : Nat := 1 <<< 53

/-- `base ^ n` as a fraction. -/
def powFraction (base : Nat) (n : Int) : Nat × Nat :=
  if 0 ≤ n then (base.pow n.toNat, 1) else (1, base.pow (-n).toNat)

/-- The natural number nearest to a fraction; of two equally near ones the even one. -/
def roundDiv (num den : Nat) : Nat :=
  let quotient := num / den
  let twice := 2 * (num % den)
  if twice < den then quotient
  else if den < twice then quotient + 1
  else quotient + quotient % 2

/-- The greatest `e` with `2 ^ e ≤ num / den`, for a positive fraction. -/
def floorLog2 (num den : Nat) : Int :=
  let guess := (num.log2 : Int) - den.log2
  let (pn, pd) := powFraction 2 guess
  if num * pd < pn * den then guess - 1 else guess

/-- The fraction rounded to double precision, unless it is out of range. -/
def roundFraction? (num den : Nat) : Option Binary :=
  if num = 0 then some ⟨0, minExponent⟩
  else
    let exponent := max minExponent (floorLog2 num den - 52)
    let (pn, pd) := powFraction 2 exponent
    let significand := roundDiv (num * pd) (den * pn)
    let rounded : Binary :=
      if significand = significandBound then ⟨significandBound / 2, exponent + 1⟩
      else ⟨significand, exponent⟩
    if maxExponent < rounded.exponent then none else some rounded

/-- The number of decimal digits. -/
def length (n : Nat) : Nat := (Nat.toDigits 10 n).length

/-- The magnitude of a decimal number rounded to double precision, unless it is out of range. A
number far out of the range of double precision is not expanded. -/
def round? (d : Decimal) : Option Binary :=
  let magnitude := (length d.digits : Int) + d.exponent
  if d.digits = 0 || magnitude < -400 then some ⟨0, minExponent⟩
  else if 400 < magnitude then none
  else
    let (pn, pd) := powFraction 10 d.exponent
    roundFraction? (d.digits * pn) pd

end Decimal

end OutlineLint

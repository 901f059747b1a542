import OutlineLint.Decimal.Basic

/-!
# Rounding step by step

A quick way to bring a decimal number to double precision: its leading digits are rounded, and the
result is multiplied or divided by a rounded power of ten. Every step is rounded, so the result may
miss the nearest number by a few places at its end; numbers with few digits come out exactly.
-/

namespace OutlineLint.Decimal

/-! ### Steps -/

/-- The magnitude of a number as a fraction. -/
def Binary.fraction (b : Binary) : Nat × Nat :=
  let (num, den) := powFraction 2 b.exponent
  (b.significand * num, den)

/-- The rounded product, unless it is out of range. -/
def Binary.times? (a b : Binary) : Option Binary :=
  let (an, ad) := a.fraction
  let (bn, bd) := b.fraction
  roundFraction? (an * bn) (ad * bd)

/-- The rounded quotient, unless it is out of range. -/
def Binary.over? (a b : Binary) : Option Binary :=
  let (an, ad) := a.fraction
  let (bn, bd) := b.fraction
  roundFraction? (an * bd) (ad * bn)

/-- The greatest power of ten in the range of double precision. -/
def maxPower : Nat := 308

/-- A rounded power of ten, unless it is out of range. -/
def tenPower? (n : Nat) : Option Binary := roundFraction? (Nat.pow 10 n) 1

/-- A number after division by `10 ^ n`. A power of ten that is out of range is taken in several
steps. -/
def Binary.shrink? (b : Binary) (n : Nat) : Option Binary :=
  if n ≤ maxPower then (tenPower? n).bind b.over?
  else if b.significand = 0 then some b
  else ((tenPower? maxPower).bind b.over?).bind fun b => b.shrink? (n - maxPower)
termination_by n
decreasing_by
  exact Nat.sub_lt (Nat.lt_of_le_of_lt (Nat.zero_le maxPower) (Nat.lt_of_not_le ‹_›)) (by decide)

/-! ### Decimal numbers -/

/-- The leading digits of a number, as many as fit in 64 bits, and the exponent that goes with
them. -/
def leading (digits : Nat) (exponent : Int) : Nat × Int :=
  if h : digits < UInt64.size then (digits, exponent)
  else leading (digits / 10) (exponent + 1)
termination_by digits
decreasing_by
  exact Nat.div_lt_self (Nat.lt_of_lt_of_le (by decide) (Nat.le_of_not_lt h)) (by decide)

/-- The magnitude of a decimal number brought to double precision step by step, unless it is out of
range. -/
def roundStepwise? (d : Decimal) : Option Binary := do
  let (digits, exponent) := leading d.digits d.exponent
  let b ← roundFraction? digits 1
  if exponent < 0 then b.shrink? (-exponent).toNat
  else if exponent ≤ maxPower then b.times? (← tenPower? exponent.toNat)
  else if digits = 0 then some b
  else none

end OutlineLint.Decimal

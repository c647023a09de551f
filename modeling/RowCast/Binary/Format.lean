import RowCast.Text.Digits

/-!
# Binary floating point formats

Bit patterns of binary floating point numbers as natural numbers: fields, exact values and correct
rounding. All arithmetic is on exact integers.
-/

namespace RowCast

open scoped CorePowers

/-- A binary format: a sign bit, then an exponent field, then a fraction field. -/
structure FloatFormat where
  exponentBits : Nat
  fractionBits : Nat
  deriving DecidableEq

namespace FloatFormat

/-- The format of 32 bits. -/
def single : FloatFormat := ⟨8, 23⟩

/-- The format of 64 bits. -/
def double : FloatFormat := ⟨11, 52⟩

/-- The pattern of the sign bit. -/
def signBit (f : FloatFormat) : Nat :=
  2 ^ (f.exponentBits + f.fractionBits)

/-- The pattern of positive infinity; larger patterns without the sign bit are no numbers. -/
def infinity (f : FloatFormat) : Nat :=
  (2 ^ f.exponentBits - 1) * 2 ^ f.fractionBits

/-- The pattern that stands for every value that is no number. -/
def notANumber (f : FloatFormat) : Nat :=
  f.infinity + 2 ^ (f.fractionBits - 1)

/-- The exponent of two of the smallest positive number. -/
def leastExponent (f : FloatFormat) : Int :=
  2 - 2 ^ (f.exponentBits - 1) - f.fractionBits

/-- A finite pattern without its sign bit as a significand and an exponent of two. -/
def parts (f : FloatFormat) (magnitude : Nat) : Nat × Int :=
  let exponent := magnitude / 2 ^ f.fractionBits
  let fraction := magnitude % 2 ^ f.fractionBits
  if exponent = 0 then (fraction, f.leastExponent)
  else (2 ^ f.fractionBits + fraction, f.leastExponent + (exponent - 1 : Int))

/-- The value of a finite pattern without its sign bit, as numerator and denominator. -/
def ratio (f : FloatFormat) (magnitude : Nat) : Nat × Nat :=
  let (significand, exponent) := f.parts magnitude
  (significand * 2 ^ exponent.toNat, 2 ^ (-exponent).toNat)

/-- The quotient rounded to the nearest integer, a half to the even one. -/
def divideEven (num den : Nat) : Nat :=
  let quotient := num / den
  let twice := 2 * (num % den)
  if twice < den ∨ (twice = den ∧ quotient % 2 = 0) then quotient else quotient + 1

/-- The greatest exponent of two whose power is at most the positive ratio `num / den`. -/
def ratioLog (num den : Nat) : Int :=
  let e : Int := (num.log2 : Int) - den.log2
  if num * 2 ^ (-e).toNat < den * 2 ^ e.toNat then e - 1 else e

/--
The pattern without sign of the number nearest to `num / den`, of two equally near the even one.
-/
def roundRatio (f : FloatFormat) (num den : Nat) : Nat :=
  if num = 0 then 0 else
    let exponent := max (ratioLog num den - f.fractionBits) f.leastExponent
    let significand := divideEven (num * 2 ^ (-exponent).toNat) (den * 2 ^ exponent.toNat)
    min ((exponent - f.leastExponent).toNat * 2 ^ f.fractionBits + significand) f.infinity

/-- A pattern without its sign bit. -/
def magnitude (f : FloatFormat) (bits : Nat) : Nat :=
  bits % f.signBit

/-- Whether the sign bit is set. -/
def isNegative (f : FloatFormat) (bits : Nat) : Bool :=
  decide (f.signBit ≤ bits)

/-- Whether a pattern is no number. -/
def isNotANumber (f : FloatFormat) (bits : Nat) : Bool :=
  decide (f.infinity < f.magnitude bits)

/-- Whether a pattern is a finite number. -/
def isFinite (f : FloatFormat) (bits : Nat) : Bool :=
  decide (f.magnitude bits < f.infinity)

/-- A pattern with the given sign. -/
def withSign (f : FloatFormat) (negative : Bool) (magnitude : Nat) : Nat :=
  if negative then f.signBit + magnitude else magnitude

/-- Equality of numbers: the two zeros are equal, what is no number equals nothing. -/
def sameNumber (f : FloatFormat) (a b : Nat) : Bool :=
  !f.isNotANumber a && !f.isNotANumber b &&
    (a == b || (f.magnitude a == 0 && f.magnitude b == 0))

/-- A pattern of one format as the nearest pattern of another. -/
def convert (source target : FloatFormat) (bits : Nat) : Nat :=
  let magnitude := source.magnitude bits
  if source.infinity < magnitude then target.notANumber
  else if magnitude = source.infinity then
    target.withSign (source.isNegative bits) target.infinity
  else
    let (num, den) := source.ratio magnitude
    target.withSign (source.isNegative bits) (target.roundRatio num den)

end FloatFormat

end RowCast

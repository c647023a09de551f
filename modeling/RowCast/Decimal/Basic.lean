import RowCast.Text.Digits

/-!
# Exact decimals

Decimals with a mantissa of 96 bits and at most 28 fractional digits, their numeric value and their
text. A decimal remembers its scale, so `1.0` and `1.00` are different decimals of equal value.
-/

namespace RowCast

open scoped CorePowers

/-- The decimal `± mantissa / 10 ^ scale`. -/
structure Decimal where
  negative : Bool
  mantissa : Nat
  scale : Nat
  mantissa_lt : mantissa < 2 ^ (96 : Nat)
  scale_le : scale ≤ 28
  deriving DecidableEq

namespace Decimal

/-- The mantissa with its sign. -/
def signedMantissa (d : Decimal) : Int :=
  if d.negative then -d.mantissa else d.mantissa

/-- Equality of numeric value, whatever the scales and the sign of zero. -/
def sameValue (a b : Decimal) : Bool :=
  a.signedMantissa * 10 ^ b.scale == b.signedMantissa * 10 ^ a.scale

/-- The decimal with a given mantissa and scale, if it has one; zero takes the positive sign. -/
def ofMantissa? (mantissa : Int) (scale : Nat) : Option Decimal :=
  if h : mantissa.natAbs < 2 ^ (96 : Nat) ∧ scale ≤ 28 then
    some ⟨mantissa < 0, mantissa.natAbs, scale, h.1, h.2⟩
  else none

/-- Zero with the given number of fractional digits, at most 28. -/
def zero (scale : Nat) : Decimal :=
  ⟨false, 0, min scale 28, by decide, Nat.min_le_right scale 28⟩

/-- The decimal of a 64-bit integer. -/
def ofInt64 (n : Int64) : Decimal :=
  ⟨n.toInt < 0, n.toInt.natAbs, 0, by
    have := n.le_toInt
    have := n.toInt_lt
    omega, Nat.zero_le 28⟩

/-- The integer that a decimal equals, if its fractional digits are all zero. -/
def toInt? (d : Decimal) : Option Int :=
  if d.mantissa % 10 ^ d.scale = 0 then
    let whole : Nat := d.mantissa / 10 ^ d.scale
    some (if d.negative then -(whole : Int) else whole)
  else none

/-- The digits of a decimal: as many behind the point as its scale, at least one before it. -/
def digitsText (d : Decimal) : List Char :=
  let digits := Text.paddedText (d.scale + 1) d.mantissa
  let whole := digits.take (digits.length - d.scale)
  if d.scale = 0 then whole else whole ++ '.' :: digits.drop (digits.length - d.scale)

/-- The text of a decimal; a negative zero keeps its sign. -/
def text (d : Decimal) : List Char :=
  if d.negative then '-' :: d.digitsText else d.digitsText

/--
The exact value of `unscaled / 10 ^ scale`, if a decimal has it. Its scale is `scale` brought into
the range from 0 to 28. Powers of ten beyond `10 ^ 38` are not formed, not even to multiply zero.
-/
def ofScaled? (unscaled : Int64) (scale : Int32) : Option Decimal :=
  let n := unscaled.toInt
  let s := scale.toInt
  if s < 0 then
    if s < -38 then none else ofMantissa? (n * 10 ^ s.natAbs) 0
  else if s ≤ 28 then ofMantissa? n s.toNat
  else if n = 0 then some (zero 28)
  else if 66 < s then none
  else if n % 10 ^ (s.toNat - 28) = 0 then ofMantissa? (n / 10 ^ (s.toNat - 28)) 28
  else none

end Decimal

end RowCast

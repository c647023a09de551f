import RowCast.Decimal.Basic

/-!
# Rescaling decimals

A decimal brought to another number of fractional digits: rounded where digits go, padded with zeros
where digits come, as far as the mantissa has room.
-/

namespace RowCast.Decimal

open scoped CorePowers

/-- Drop the last `count + 1` digits of a mantissa; a remainder of half or more rounds up. -/
def dropDigits (count mantissa : Nat) : Nat :=
  (mantissa / 10 ^ count + 5) / 10

/-- Append up to `count` zeros to a mantissa while it stays below `2 ^ 96`. -/
def appendZeros : Nat → Nat → Nat
  | 0, mantissa => mantissa
  | count + 1, mantissa =>
    if mantissa * 10 < 2 ^ (96 : Nat) then appendZeros count (mantissa * 10) else mantissa

/-- How many of `count` zeros `appendZeros` appends. -/
def zerosAppended : Nat → Nat → Nat
  | 0, _ => 0
  | count + 1, mantissa =>
    if mantissa * 10 < 2 ^ (96 : Nat) then zerosAppended count (mantissa * 10) + 1 else 0

/-- Dropping digits never makes a mantissa larger. -/
theorem dropDigits_le (count mantissa : Nat) : dropDigits count mantissa ≤ mantissa := by
  have := Nat.div_le_self mantissa (10 ^ count)
  unfold dropDigits
  omega

/-- A mantissa keeps to its 96 bits while zeros are appended. -/
theorem appendZeros_lt (count : Nat) {mantissa : Nat} (h : mantissa < 2 ^ (96 : Nat)) :
    appendZeros count mantissa < 2 ^ (96 : Nat) := by
  induction count generalizing mantissa with
  | zero => exact h
  | succ count ih =>
    unfold appendZeros
    split
    · next room => exact ih room
    · exact h

/-- No more zeros are appended than asked for. -/
theorem zerosAppended_le (count mantissa : Nat) : zerosAppended count mantissa ≤ count := by
  induction count generalizing mantissa with
  | zero => exact Nat.le_refl 0
  | succ count ih =>
    unfold zerosAppended
    split
    · exact Nat.succ_le_succ (ih _)
    · exact Nat.zero_le _

/--
The decimal with `target` fractional digits. Fewer digits than before round half away from zero;
more digits than before are zeros, and only as many as the mantissa has room for. The sign stays,
also where rounding leaves zero.
-/
def rescale (d : Decimal) (target : Nat) (target_le : target ≤ 28) : Decimal :=
  if d.mantissa = 0 then
    { d with scale := target, scale_le := target_le }
  else if h : target < d.scale then
    { d with
      mantissa := dropDigits (d.scale - target - 1) d.mantissa
      scale := target
      mantissa_lt := Nat.lt_of_le_of_lt (dropDigits_le _ _) d.mantissa_lt
      scale_le := target_le }
  else
    { d with
      mantissa := appendZeros (target - d.scale) d.mantissa
      scale := d.scale + zerosAppended (target - d.scale) d.mantissa
      mantissa_lt := appendZeros_lt _ d.mantissa_lt
      scale_le := by
        have := zerosAppended_le (target - d.scale) d.mantissa
        omega }

/-- A requested scale brought into the range from 0 to 28. -/
def clampScale (scale : Int32) : Nat :=
  min scale.toInt.toNat 28

/-- The decimal rescaled to a requested scale, brought into the range from 0 to 28. -/
def rescaleTo (d : Decimal) (scale : Int32) : Decimal :=
  d.rescale (clampScale scale) (Nat.min_le_right _ 28)

end RowCast.Decimal

import Mathlib.Algebra.Order.Field.Power
import Mathlib.Data.Rat.Cast.Order
import Mathlib.Tactic.FieldSimp
import Mathlib.Tactic.NormNum
import Mathlib.Tactic.Positivity
import RowCast.Decimal.Basic

/-!
# The numbers that decimals stand for

A decimal stands for a rational number. Its scale says how the number is written, so a number and a
scale leave no choice of a decimal but the sign of zero. That two decimals have the same value, as
the integers in them are compared, means that they stand for the same number.
-/

namespace RowCast.Decimal

/-- The number that a decimal stands for. -/
def value (d : Decimal) : ℚ :=
  d.signedMantissa / 10 ^ d.scale

/-- Whether a decimal is a zero with a minus sign. -/
def isNegativeZero (d : Decimal) : Bool :=
  d.negative && d.mantissa == 0

/-- The mantissa is the magnitude of the mantissa with its sign. -/
@[simp] theorem natAbs_signedMantissa (d : Decimal) : d.signedMantissa.natAbs = d.mantissa := by
  unfold signedMantissa
  split
  · rw [Int.natAbs_neg, Int.natAbs_natCast]
  · exact Int.natAbs_natCast _

/-- Numbers over powers of ten are compared across. -/
theorem value_eq_div_iff {d : Decimal} {n : Int} {k : Nat} :
    d.value = n / 10 ^ k ↔ d.signedMantissa * 10 ^ k = n * 10 ^ d.scale := by
  rw [value, div_eq_div_iff (by positivity) (by positivity)]
  exact_mod_cast Iff.rfl

/-- Decimals have the same value, as they are compared, if they stand for the same number. -/
theorem sameValue_iff {a b : Decimal} : a.sameValue b = true ↔ a.value = b.value := by
  rw [sameValue, beq_iff_eq, ← value_eq_div_iff]
  rfl

/-- Zero has no digits, whatever its sign. -/
theorem signedMantissa_eq_zero {d : Decimal} (h : d.mantissa = 0) : d.signedMantissa = 0 :=
  Int.natAbs_eq_zero.mp (d.natAbs_signedMantissa.trans h)

/-- A decimal stands for zero exactly if it has no digits but zeros. -/
theorem value_eq_zero_iff {d : Decimal} : d.value = 0 ↔ d.mantissa = 0 := by
  rw [value, div_eq_zero_iff, or_iff_left (by positivity), Int.cast_eq_zero, ← Int.natAbs_eq_zero,
    natAbs_signedMantissa]

/-- The mantissa of a decimal with more places than `places`, in terms of its number. -/
theorem value_mul_pow {d : Decimal} {places : Nat} (h : places ≤ d.scale) :
    d.value * 10 ^ places = d.signedMantissa / 10 ^ (d.scale - places) := by
  have hsplit : (10 : ℚ) ^ d.scale = 10 ^ (d.scale - places) * 10 ^ places := by
    rw [← pow_add, Nat.sub_add_cancel h]
  rw [value, hsplit, div_mul_eq_div_div]
  field_simp

/-- A decimal with more places than another of the same value has as many more zeros. -/
theorem signedMantissa_mul_pow {c d : Decimal} (hvalue : c.value = d.value)
    (h : c.scale ≤ d.scale) :
    c.signedMantissa * 10 ^ (d.scale - c.scale) = d.signedMantissa := by
  have hcross : c.signedMantissa * 10 ^ d.scale = d.signedMantissa * 10 ^ c.scale :=
    value_eq_div_iff.mp hvalue
  have hsplit : d.scale = d.scale - c.scale + c.scale := (Nat.sub_add_cancel h).symm
  rw [hsplit, pow_add, ← mul_assoc] at hcross
  exact Int.eq_of_mul_eq_mul_right (by positivity) hcross

/-- The mantissas of decimals of the same value differ by as many zeros as their places. -/
theorem mantissa_mul_pow {c d : Decimal} (hvalue : c.value = d.value) (h : c.scale ≤ d.scale) :
    c.mantissa * 10 ^ (d.scale - c.scale) = d.mantissa := by
  rw [← d.natAbs_signedMantissa, ← signedMantissa_mul_pow hvalue h, Int.natAbs_mul,
    natAbs_signedMantissa, Int.natAbs_pow]
  rfl

/-- A decimal other than a negative zero has a minus sign exactly if it is below zero. -/
theorem negative_eq (d : Decimal) (h : d.isNegativeZero = false) :
    d.negative = decide (d.signedMantissa < 0) := by
  unfold isNegativeZero at h
  unfold signedMantissa
  cases hsign : d.negative with
  | false => simp
  | true =>
    have hmantissa : d.mantissa ≠ 0 := by simpa [hsign] using h
    simpa using Nat.pos_of_ne_zero hmantissa

/-- A number and a scale leave no choice of a decimal but the sign of zero. -/
theorem eq_of_value_of_scale {a b : Decimal} (hvalue : a.value = b.value)
    (hscale : a.scale = b.scale) (ha : a.isNegativeZero = false) (hb : b.isNegativeZero = false) :
    a = b := by
  have hdigits : a.signedMantissa = b.signedMantissa := by
    simpa [hscale] using signedMantissa_mul_pow hvalue hscale.le
  have hsign : a.negative = b.negative := by
    rw [a.negative_eq ha, b.negative_eq hb, hdigits]
  have hmantissa : a.mantissa = b.mantissa := by
    rw [← a.natAbs_signedMantissa, hdigits, b.natAbs_signedMantissa]
  cases a
  cases b
  simp_all

/-- The decimal made of an integer and a scale, where both are in their range, is the only one. -/
theorem ofMantissa?_eq_some_iff {n : Int} {scale : Nat} {d : Decimal} :
    ofMantissa? n scale = some d ↔
      d.signedMantissa = n ∧ d.scale = scale ∧ d.isNegativeZero = false := by
  constructor
  · intro h
    unfold ofMantissa? at h
    split at h
    · cases h
      refine ⟨?_, rfl, ?_⟩
      · simp only [signedMantissa, decide_eq_true_eq]
        split <;> omega
      · simp only [isNegativeZero, Bool.and_eq_false_imp, decide_eq_true_eq, beq_eq_false_iff_ne]
        omega
    · cases h
  · rintro ⟨rfl, rfl, hzero⟩
    have hroom : d.signedMantissa.natAbs < 2 ^ 96 ∧ d.scale ≤ 28 :=
      ⟨d.natAbs_signedMantissa ▸ d.mantissa_lt, d.scale_le⟩
    rw [ofMantissa?, dif_pos hroom]
    simp [← d.negative_eq hzero]

/-- An integer below `2 ^ 96` has a decimal at every scale up to 28. -/
theorem exists_ofMantissa? {n : Int} {scale : Nat} (hn : n.natAbs < 2 ^ 96) (hscale : scale ≤ 28) :
    ∃ d, ofMantissa? n scale = some d :=
  ⟨_, dif_pos ⟨hn, hscale⟩⟩

end RowCast.Decimal

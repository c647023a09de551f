import Mathlib.Algebra.Order.Ring.Abs
import Mathlib.Order.Bounds.Basic
import Mathlib.Tactic.Linarith
import Mathlib.Tactic.Ring
import RowCast.Proofs.DecimalValues
import RowCast.Proofs.WellTyped

/-!
# Rounding and padding of decimals

A decimal that is read at fewer places than it has is rounded to the nearest number with that many
places, a half away from zero, though only the first digit that goes is looked at. At more places it
keeps its number, and as many zeros are appended as are asked for and as there is room for.
-/

namespace RowCast

/-- An integer is the nearest one to a number, of two nearest ones the one farther from zero. -/
structure IsRounded (x : ℚ) (n : Int) : Prop where
  near : |x - n| ≤ 1 / 2
  away : |x - n| = 1 / 2 → |x| < |(n : ℚ)|

namespace IsRounded

variable {x : ℚ} {m n : Int}

/-- An integer is rounded to itself. -/
theorem intCast (n : Int) : IsRounded n n where
  near := by simp
  away h := by norm_num at h

/-- Rounding does not depend on the sign. -/
theorem neg (h : IsRounded x n) : IsRounded (-x) (-n) := by
  have hdistance : |-x - ((-n : Int) : ℚ)| = |x - n| := by
    rw [← abs_neg]
    push_cast
    congr 1
    ring
  refine ⟨hdistance ▸ h.near, fun heq => ?_⟩
  rw [abs_neg, Int.cast_neg, abs_neg]
  exact h.away (hdistance ▸ heq)

/-- A number is not rounded to an integer and to a greater one. -/
theorem le (hm : IsRounded x m) (hn : IsRounded x n) : n ≤ m := by
  by_contra hlt
  have hstep : (m : ℚ) + 1 ≤ n := by exact_mod_cast Int.not_le.mp hlt
  have hupper := (abs_le.mp hm.near).2
  have hlower := (abs_le.mp hn.near).1
  -- The number is halfway between the two, so it is closer to zero than both are.
  have hx : x = m + 1 / 2 := by linarith
  have hn' : (n : ℚ) = m + 1 := by linarith
  have hmaway := sq_lt_sq.mpr (hm.away (by rw [hx]; norm_num))
  have hnaway := sq_lt_sq.mpr (hn.away (by rw [hx, hn']; norm_num))
  rw [hx] at hmaway
  rw [hx, hn'] at hnaway
  have hnegative : 4 * (m : ℚ) < -1 := by linarith
  have hpositive : -3 < 4 * (m : ℚ) := by linarith
  have hnegative' : 4 * m < -1 := by exact_mod_cast hnegative
  have hpositive' : -3 < 4 * m := by exact_mod_cast hpositive
  omega

/-- A number is rounded to one integer only. -/
theorem unique (hm : IsRounded x m) (hn : IsRounded x n) : m = n :=
  Int.le_antisymm (hn.le hm) (hm.le hn)

/-- A quotient is rounded to the one whose multiples enclose the dividend and half the divisor. -/
theorem natCast_div {m divisor q : Nat} (hlower : 2 * q * divisor ≤ 2 * m + divisor)
    (hupper : 2 * m + divisor < 2 * (q + 1) * divisor) : IsRounded (m / divisor : ℚ) q := by
  have hpositive : (0 : ℚ) < divisor := by
    rcases Nat.eq_zero_or_pos divisor with rfl | h
    · omega
    · exact_mod_cast h
  have hlower' : (q : ℚ) ≤ m / divisor + 1 / 2 := by
    rw [div_add_div _ _ hpositive.ne' two_ne_zero, le_div_iff₀ (by positivity)]
    have : (2 * q * divisor : ℚ) ≤ 2 * m + divisor := by exact_mod_cast hlower
    linarith
  have hupper' : (m / divisor : ℚ) + 1 / 2 < q + 1 := by
    rw [div_add_div _ _ hpositive.ne' two_ne_zero, div_lt_iff₀ (by positivity)]
    have : (2 * m + divisor : ℚ) < 2 * (q + 1) * divisor := by exact_mod_cast hupper
    linarith
  constructor
  · rw [Int.cast_natCast, abs_le]
    constructor <;> linarith
  · intro hhalf
    have hnonneg : (0 : ℚ) ≤ m / divisor := by positivity
    rw [Int.cast_natCast] at hhalf ⊢
    rw [abs_of_nonneg hnonneg, abs_of_nonneg (by positivity)]
    rcases (abs_eq (by norm_num)).mp hhalf with h | h <;> linarith

end IsRounded

namespace Decimal

/-- Appending zeros multiplies by a power of ten. -/
theorem appendZeros_eq (count mantissa : Nat) :
    appendZeros count mantissa = mantissa * 10 ^ zerosAppended count mantissa := by
  induction count generalizing mantissa with
  | zero => simp [appendZeros, zerosAppended]
  | succ count ih =>
    unfold appendZeros zerosAppended
    split
    · rw [ih, pow_succ']
      ring
    · rw [pow_zero, mul_one]

/-- As many zeros are appended as asked for and as there is room for. -/
theorem isGreatest_zerosAppended (count : Nat) {mantissa : Nat} (h : mantissa < 2 ^ 96) :
    IsGreatest {k | k ≤ count ∧ mantissa * 10 ^ k < 2 ^ 96} (zerosAppended count mantissa) := by
  refine ⟨⟨zerosAppended_le count mantissa, ?_⟩, ?_⟩
  · rw [← appendZeros_eq]
    exact appendZeros_lt count h
  · rintro k ⟨hk, hroom⟩
    induction count generalizing mantissa k with
    | zero => exact hk.trans (Nat.zero_le _)
    | succ count ih =>
      cases k with
      | zero => exact Nat.zero_le _
      | succ k =>
        have hstep : mantissa * 10 * 10 ^ k < 2 ^ 96 := by
          rwa [mul_assoc, ← pow_succ']
        have hfirst : mantissa * 10 < 2 ^ 96 :=
          (Nat.le_mul_of_pos_right _ (by positivity)).trans_lt hstep
        rw [zerosAppended, if_pos hfirst]
        exact Nat.succ_le_succ (ih hfirst (by omega) hstep)

/-- The first digit that is dropped decides, and this rounds as the whole remainder does. -/
theorem isRounded_dropDigits (count mantissa : Nat) :
    IsRounded (mantissa / 10 ^ (count + 1)) (dropDigits count mantissa) := by
  have hbelow : 10 ^ count * (mantissa / 10 ^ count) ≤ mantissa := Nat.mul_div_le _ _
  have habove : mantissa < 10 ^ count * (mantissa / 10 ^ count + 1) :=
    Nat.lt_mul_div_succ _ (by positivity)
  have hlower : 10 ^ count * (10 * ((mantissa / 10 ^ count + 5) / 10)) ≤
      10 ^ count * (mantissa / 10 ^ count + 5) :=
    Nat.mul_le_mul_left _ (Nat.mul_div_le _ 10)
  have hupper : 10 ^ count * (mantissa / 10 ^ count + 6) ≤
      10 ^ count * (10 * ((mantissa / 10 ^ count + 5) / 10 + 1)) :=
    Nat.mul_le_mul_left _ (by omega)
  rw [← Nat.cast_ofNat, ← Nat.cast_pow]
  unfold dropDigits
  apply IsRounded.natCast_div <;> rw [pow_succ] <;> linarith

variable {d : Decimal} {target : Nat} (target_le : target ≤ 28)

/-- Rescaling keeps the sign, also that of zero. -/
theorem rescale_negative : (d.rescale target target_le).negative = d.negative := by
  unfold rescale
  split
  · rfl
  · split <;> rfl

/-- Zero is rescaled to zero, at any scale. -/
theorem rescale_of_zero (h : d.mantissa = 0) :
    (d.rescale target target_le).scale = target ∧
      (d.rescale target target_le).signedMantissa = 0 := by
  rw [rescale, if_pos h]
  exact ⟨rfl, signedMantissa_eq_zero h⟩

/-- Fewer places than before are exactly those asked for, and the number is rounded to them. -/
theorem rescale_of_le (h : target ≤ d.scale) :
    (d.rescale target target_le).scale = target ∧
      IsRounded (d.value * 10 ^ target) (d.rescale target target_le).signedMantissa := by
  rw [value_mul_pow h]
  by_cases hzero : d.mantissa = 0
  · obtain ⟨hscale, hdigits⟩ := rescale_of_zero target_le hzero
    refine ⟨hscale, ?_⟩
    rw [hdigits, signedMantissa_eq_zero hzero, Int.cast_zero, zero_div]
    exact_mod_cast IsRounded.intCast 0
  rcases h.eq_or_lt with heq | hlt
  · rw [rescale_of_scale target_le heq.symm, ← heq, Nat.sub_self, pow_zero, div_one]
    exact ⟨rfl, .intCast _⟩
  · have hcount : d.scale - target = d.scale - target - 1 + 1 := by omega
    have hrounded := isRounded_dropDigits (d.scale - target - 1) d.mantissa
    rw [← hcount] at hrounded
    rw [rescale, if_neg hzero, dif_pos hlt]
    refine ⟨rfl, ?_⟩
    unfold signedMantissa
    cases d.negative with
    | false => simpa using hrounded
    | true => simpa [neg_div] using hrounded.neg

/-- More places than before are as many as asked for and as there is room for. -/
theorem isGreatest_scale_add (h : d.scale < target) :
    IsGreatest {k | (d.scale ≤ k ∧ k ≤ target) ∧ d.mantissa * 10 ^ (k - d.scale) < 2 ^ 96}
      (d.scale + zerosAppended (target - d.scale) d.mantissa) := by
  obtain ⟨⟨hcount, hroom⟩, hupper⟩ :=
    isGreatest_zerosAppended (target - d.scale) d.mantissa_lt
  refine ⟨⟨⟨Nat.le_add_right _ _, by omega⟩, ?_⟩, ?_⟩
  · rwa [Nat.add_sub_cancel_left]
  · rintro k ⟨⟨hk, hk'⟩, hkroom⟩
    have := hupper ⟨Nat.sub_le_sub_right hk' d.scale, hkroom⟩
    omega

/-- With more places than before the number stays, at the greatest scale there is room for. -/
theorem rescale_of_lt (h : d.scale < target) :
    (d.rescale target target_le).value = d.value ∧
      IsGreatest {k | (d.scale ≤ k ∧ k ≤ target) ∧ d.mantissa * 10 ^ (k - d.scale) < 2 ^ 96}
        (d.rescale target target_le).scale := by
  by_cases hzero : d.mantissa = 0
  · obtain ⟨hscale, hdigits⟩ := rescale_of_zero target_le hzero
    rw [value, value, hdigits, signedMantissa_eq_zero hzero, hscale]
    exact ⟨by simp, ⟨⟨h.le, le_rfl⟩, by simp [hzero]⟩, fun k hk => hk.1.2⟩
  · rw [rescale, if_neg hzero, dif_neg h.not_gt]
    refine ⟨value_eq_div_iff.mpr ?_, isGreatest_scale_add h⟩
    simp only [signedMantissa, appendZeros_eq, pow_add]
    push_cast
    split <;> ring

/-- A decimal that is brought to the scale of another one of the same value keeps this value. -/
theorem rescale_of_value {c d : Decimal} (hvalue : c.value = d.value) :
    (c.rescale d.scale d.scale_le).scale = d.scale ∧
      (c.rescale d.scale d.scale_le).value = d.value := by
  rcases le_or_gt d.scale c.scale with hle | hlt
  · obtain ⟨hscale, hrounded⟩ := rescale_of_le d.scale_le hle
    -- The number has no more places than are kept, so that rounding leaves it alone.
    have hwhole : c.value * 10 ^ d.scale = d.signedMantissa := by
      rw [hvalue, value_mul_pow le_rfl, Nat.sub_self, pow_zero, div_one]
    rw [hwhole] at hrounded
    refine ⟨hscale, ?_⟩
    rw [value, hscale, hrounded.unique (.intCast d.signedMantissa), value]
  · obtain ⟨hsame, hgreatest⟩ := rescale_of_lt d.scale_le hlt
    have hroom : c.mantissa * 10 ^ (d.scale - c.scale) < 2 ^ 96 :=
      (mantissa_mul_pow hvalue hlt.le).trans_lt d.mantissa_lt
    exact ⟨le_antisymm hgreatest.1.1.2 (hgreatest.2 ⟨⟨hlt.le, le_rfl⟩, hroom⟩),
      hsame.trans hvalue⟩

/-- A decimal that is brought to the scale of another one of the same value is that one. -/
theorem rescale_eq_of_value {c d : Decimal} (hvalue : c.value = d.value)
    (hc : c.isNegativeZero = false) (hd : d.isNegativeZero = false) :
    c.rescale d.scale d.scale_le = d := by
  obtain ⟨hscale, hsame⟩ := rescale_of_value hvalue
  have hzero : (c.rescale d.scale d.scale_le).mantissa = 0 ↔ c.mantissa = 0 := by
    rw [← value_eq_zero_iff, hsame, ← hvalue, value_eq_zero_iff]
  have hsign : (c.rescale d.scale d.scale_le).isNegativeZero = false := by
    rw [isNegativeZero, rescale_negative]
    simpa [isNegativeZero, hzero] using hc
  exact eq_of_value_of_scale hsame hscale hsign hd

end Decimal

/-- The decimal in a cell; an integer is the decimal of scale zero that equals it. -/
def Cell.decimal? : Cell → Option Decimal
  | .value (.decimal d) => some d
  | .value v => v.asInt64?.map .ofInt64
  | _ => none

namespace ResultTable

/-- The decimal in a cell is read at the scale that is asked for. -/
theorem decimalOf_of_decimal? {cell : Cell} {c : Decimal} (h : cell.decimal? = some c)
    (scale : Int32) : decimalOf scale cell = .ok (some (c.rescaleTo scale)) := by
  cases cell with
  | value v =>
    cases v with
    | decimal d =>
      cases h
      rfl
    | int8 n | int16 n | int32 n | int64 n =>
      cases h
      rfl
    | _ => cases h
  | _ => cases h

/--
A decimal or an integer is read at the scale asked for, brought into the range from 0 to 28. Where
places go, the number is rounded; where places come, it stays, at the greatest scale there is room
for.
-/
theorem getDecimal_rounds {t : ResultTable} {index : Nat} {cell : Cell} {c : Decimal}
    (hcell : t.cell index = .ok cell) (hc : cell.decimal? = some c) (scale : Int32) :
    ∃ r : Decimal, (rowSource.getDecimal index scale t).1 = .ok (some r) ∧ r.mantissa < 2 ^ 96 ∧
      (Decimal.clampScale scale ≤ c.scale →
        r.scale = Decimal.clampScale scale ∧
          IsRounded (c.value * 10 ^ Decimal.clampScale scale) r.signedMantissa) ∧
      (c.scale < Decimal.clampScale scale →
        r.value = c.value ∧
          IsGreatest {k | (c.scale ≤ k ∧ k ≤ Decimal.clampScale scale) ∧
            c.mantissa * 10 ^ (k - c.scale) < 2 ^ 96} r.scale) ∧
      (c.mantissa = 0 → r.scale = Decimal.clampScale scale) := by
  refine ⟨c.rescaleTo scale, ?_, (c.rescaleTo scale).mantissa_lt, Decimal.rescale_of_le _,
    Decimal.rescale_of_lt _, fun hzero => (Decimal.rescale_of_zero _ hzero).1⟩
  change (fetch (decimalOf scale) index t).1 = _
  rw [fetch_of_cell hcell, decimalOf_of_decimal? hc]

/-- A half below zero is rounded away from zero. -/
theorem getDecimal_rounds_half_below_zero :
    let half : Decimal := ⟨true, 25, 1, by decide, by decide⟩
    let t : ResultTable := ⟨[], [[.value (.decimal half)]], some 0, false, 0⟩
    ∃ r : Decimal, (rowSource.getDecimal 0 (-2) t).1 = .ok (some r) ∧ r.scale = 0 ∧
      r.signedMantissa = -3 := by
  intro half t
  obtain ⟨r, hread, -, hle, -⟩ := getDecimal_rounds (show t.cell 0 = .ok _ from rfl)
    (show Cell.decimal? (.value (.decimal half)) = some half from rfl) (-2)
  obtain ⟨hscale, hrounded⟩ := hle (Nat.zero_le 1)
  have hvalue : half.value * 10 ^ Decimal.clampScale (-2) = -5 / 2 := by
    change (-25 : Int) / (10 : ℚ) ^ 1 * 10 ^ 0 = -5 / 2
    norm_num
  have hhalf : IsRounded (-5 / 2) (-3) := by
    constructor <;> norm_num [abs_of_neg, abs_of_pos]
  rw [hvalue] at hrounded
  exact ⟨r, hread, hscale, hrounded.unique hhalf⟩

end ResultTable

end RowCast

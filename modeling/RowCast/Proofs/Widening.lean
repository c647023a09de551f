import Mathlib.Algebra.Group.Nat.Defs
import RowCast.Binary.Number

/-!
# Widening binary numbers

A number of 32 bits is a number of 64 bits too, so widening loses nothing: what is finite stays
finite, and narrowing gives back every bit of it, subnormal numbers and the sign of zero included.
The argument is about rounding: a significand times a power of two that has a place in a format is
not changed by rounding into it.
-/

namespace RowCast

namespace FloatFormat

/-- A multiple of the divisor is divided without rounding. -/
theorem divideEven_mul (a : Nat) {d : Nat} (hd : 0 < d) : divideEven (a * d) d = a := by
  simp [divideEven, Nat.mul_div_cancel a hd, hd]

/-- Factors of two shift the logarithm. -/
theorem log2_mul_two_pow {n : Nat} (hn : 0 < n) (k : Nat) : (n * 2 ^ k).log2 = n.log2 + k := by
  have hlow : 2 ^ n.log2 ≤ n := Nat.log2_self_le (by omega)
  have hhigh : n < 2 ^ (n.log2 + 1) := Nat.lt_log2_self
  have hpow : 0 < 2 ^ k := Nat.two_pow_pos k
  rw [Nat.log2_eq_iff (Nat.mul_ne_zero (by omega) (by omega))]
  constructor
  · rw [Nat.pow_add]
    exact Nat.mul_le_mul_right _ hlow
  · rw [show n.log2 + k + 1 = n.log2 + 1 + k by omega, Nat.pow_add]
    exact Nat.mul_lt_mul_of_pos_right hhigh hpow

/-- The logarithm of a significand times a power of two. -/
theorem ratioLog_shifted {significand : Nat} (hpos : 0 < significand) (a b : Nat) :
    ratioLog (significand * 2 ^ a) (2 ^ b) = (significand.log2 : Int) + a - b := by
  unfold ratioLog
  rw [log2_mul_two_pow hpos, Nat.log2_two_pow]
  generalize he : ((significand.log2 + a : Nat) : Int) - (b : Nat) = e
  have hle : 2 ^ b * 2 ^ e.toNat ≤ significand * 2 ^ a * 2 ^ (-e).toNat :=
    calc 2 ^ b * 2 ^ e.toNat = 2 ^ significand.log2 * 2 ^ a * 2 ^ (-e).toNat := by
          rw [← Nat.pow_add, ← Nat.pow_add, ← Nat.pow_add]
          congr 1
          omega
      _ ≤ significand * 2 ^ a * 2 ^ (-e).toNat :=
          Nat.mul_le_mul_right _ (Nat.mul_le_mul_right _ (Nat.log2_self_le (by omega)))
  rw [if_neg (by omega)]
  omega

/--
A significand times a power of two is rounded without loss where the last bit of the format at this
size, `unit`, stands for no more than that power.
-/
theorem roundRatio_shifted (f : FloatFormat) {significand : Nat} (hpos : 0 < significand)
    (a b : Nat) (unit : Int)
    (hunit : unit = max ((significand.log2 : Int) + a - b - f.fractionBits) f.leastExponent)
    (hexact : unit ≤ (a : Int) - b) :
    f.roundRatio (significand * 2 ^ a) (2 ^ b) =
      min ((unit - f.leastExponent).toNat * 2 ^ f.fractionBits +
        significand * 2 ^ ((a : Int) - b - unit).toNat) f.infinity := by
  have hnum : significand * 2 ^ a ≠ 0 :=
    Nat.mul_ne_zero (by omega) (Nat.ne_of_gt (Nat.two_pow_pos a))
  have hscaled : significand * 2 ^ a * 2 ^ (-unit).toNat =
      significand * 2 ^ ((a : Int) - b - unit).toNat * (2 ^ b * 2 ^ unit.toNat) := by
    rw [Nat.mul_assoc, Nat.mul_assoc, ← Nat.pow_add, ← Nat.pow_add, ← Nat.pow_add]
    congr 2
    omega
  have hden : 0 < 2 ^ b * 2 ^ unit.toNat :=
    Nat.mul_pos (Nat.two_pow_pos b) (Nat.two_pow_pos _)
  rw [roundRatio, if_neg hnum, ratioLog_shifted hpos, ← hunit]
  simp only [hscaled, divideEven_mul _ hden]

/-- A finite pattern is put together from its significand and its exponent. -/
theorem parts_spec (f : FloatFormat) (magnitude : Nat) :
    (f.parts magnitude).1 < 2 ^ (f.fractionBits + 1) ∧
      f.leastExponent ≤ (f.parts magnitude).2 ∧
      magnitude = ((f.parts magnitude).2 - f.leastExponent).toNat * 2 ^ f.fractionBits +
        (f.parts magnitude).1 ∧
      (2 ^ f.fractionBits ≤ (f.parts magnitude).1 ∨ (f.parts magnitude).2 = f.leastExponent) := by
  have hfraction : magnitude % 2 ^ f.fractionBits < 2 ^ f.fractionBits :=
    Nat.mod_lt _ (Nat.two_pow_pos _)
  have hsplit := Nat.div_add_mod' magnitude (2 ^ f.fractionBits)
  have hdouble : 2 ^ (f.fractionBits + 1) = 2 ^ f.fractionBits + 2 ^ f.fractionBits := by
    rw [Nat.pow_succ]
    omega
  unfold parts
  cases hexponent : magnitude / 2 ^ f.fractionBits with
  | zero =>
    rw [hexponent] at hsplit
    simp only [if_true]
    refine ⟨by omega, Int.le_refl _, ?_, .inr trivial⟩
    rw [Int.sub_self, Int.toNat_zero]
    omega
  | succ k =>
    have hplace : (f.leastExponent + ((k + 1 : Nat) - 1 : Int) - f.leastExponent).toNat = k := by
      omega
    rw [hexponent, Nat.succ_mul] at hsplit
    simp only [Nat.add_one_ne_zero, if_false, hplace]
    omega

/-- What is put together from a significand and an exponent has these parts. -/
theorem parts_of_eq (f : FloatFormat) (significand k : Nat)
    (hhigh : significand < 2 ^ (f.fractionBits + 1))
    (hlow : 2 ^ f.fractionBits ≤ significand ∨ k = 0) :
    f.parts (k * 2 ^ f.fractionBits + significand) = (significand, f.leastExponent + k) := by
  have hpow : 0 < 2 ^ f.fractionBits := Nat.two_pow_pos _
  have hdouble : 2 ^ (f.fractionBits + 1) = 2 ^ f.fractionBits + 2 ^ f.fractionBits := by
    rw [Nat.pow_succ]
    omega
  unfold parts
  by_cases hnormal : 2 ^ f.fractionBits ≤ significand
  · have hsplit : k * 2 ^ f.fractionBits + significand =
        significand - 2 ^ f.fractionBits + 2 ^ f.fractionBits * (k + 1) := by
      rw [Nat.mul_succ, Nat.mul_comm]
      omega
    have hsmall : significand - 2 ^ f.fractionBits < 2 ^ f.fractionBits := by omega
    rw [hsplit, Nat.add_mul_div_left _ _ hpow, Nat.add_mul_mod_self_left,
      Nat.div_eq_of_lt hsmall, Nat.mod_eq_of_lt hsmall]
    simp
    omega
  · have hk : k = 0 := hlow.resolve_left hnormal
    have hsmall : significand < 2 ^ f.fractionBits := by omega
    subst hk
    simp [Nat.div_eq_of_lt hsmall, Nat.mod_eq_of_lt hsmall]

/-- A significand fills the 53 bits of the wider format when it is shifted far enough. -/
theorem shifted_bounds {significand shift : Nat} (hpos : 0 < significand)
    (hshift : significand.log2 + shift = 52) :
    2 ^ 52 ≤ significand * 2 ^ shift ∧ significand * 2 ^ shift < 2 ^ 53 := by
  have hlow : 2 ^ significand.log2 ≤ significand := Nat.log2_self_le (by omega)
  have hhigh : significand < 2 ^ (significand.log2 + 1) := Nat.lt_log2_self
  constructor
  · rw [← hshift, Nat.pow_add]
    exact Nat.mul_le_mul_right _ hlow
  · rw [show 53 = significand.log2 + 1 + shift by omega, Nat.pow_add]
    exact Nat.mul_lt_mul_of_pos_right hhigh (Nat.two_pow_pos shift)

/-- The format of 32 bits in numbers. -/
theorem single_parameters : single.fractionBits = 23 ∧ single.leastExponent = -149 ∧
    single.infinity = 255 * 2 ^ 23 := by decide

/-- The format of 64 bits in numbers. -/
theorem double_parameters : double.fractionBits = 52 ∧ double.leastExponent = -1074 ∧
    double.infinity = 2047 * 2 ^ 52 := by decide

/-- The number of 64 bits with a significand shifted to fill it and an exponent put in its place. -/
def wide (significand shift place : Nat) : Nat :=
  place * 2 ^ 52 + significand * 2 ^ shift

/-- A significand times a power of two that 32 bits can hold is rounded to 64 bits without loss. -/
theorem roundRatio_wide {significand shift place : Nat} {exponent : Int} (hpos : 0 < significand)
    (hshift : significand.log2 + shift = 52) (hplace : (place : Int) = exponent - shift + 1074)
    (hleast : -149 ≤ exponent) (hgreatest : exponent < 106) :
    double.roundRatio (significand * 2 ^ exponent.toNat) (2 ^ (-exponent).toNat) =
      wide significand shift place ∧ wide significand shift place < double.infinity := by
  obtain ⟨hbits, hunit, hinfinity⟩ := double_parameters
  have hbounds := shifted_bounds hpos hshift
  have hround := double.roundRatio_shifted hpos exponent.toNat (-exponent).toNat
    (exponent - shift) (by rw [hbits, hunit]; omega) (by omega)
  have hshifted :
      ((exponent.toNat : Int) - (-exponent).toNat - (exponent - shift)).toNat = shift := by omega
  have hplaced : (exponent - shift - -1074).toNat = place := by omega
  rw [hshifted, hbits, hunit, hplaced, hinfinity, Nat.min_eq_left (by omega)] at hround
  refine ⟨hround, ?_⟩
  rw [wide, hinfinity]
  omega

/-- What was rounded to 64 bits without loss is rounded back to the same 32 bits. -/
theorem roundRatio_of_wide {significand shift place : Nat} {exponent : Int}
    (hpos : 0 < significand) (hshift : significand.log2 + shift = 52)
    (hplace : (place : Int) = exponent - shift + 1074)
    (hhigh : significand < 2 ^ 24) (hlow : 2 ^ 23 ≤ significand ∨ exponent = -149)
    (hleast : -149 ≤ exponent) :
    single.roundRatio (double.ratio (wide significand shift place)).1
        (double.ratio (wide significand shift place)).2 =
      min ((exponent + 149).toNat * 2 ^ 23 + significand) single.infinity := by
  obtain ⟨hbits, hunit, -⟩ := double_parameters
  obtain ⟨hbits', hunit', -⟩ := single_parameters
  have hbounds := shifted_bounds hpos hshift
  have hparts := double.parts_of_eq (significand * 2 ^ shift) place
    (by rw [hbits]; exact hbounds.2) (.inl (by rw [hbits]; exact hbounds.1))
  rw [hbits, hunit, show (-1074 : Int) + place = exponent - shift by omega] at hparts
  have hratio : double.ratio (wide significand shift place) =
      (significand * 2 ^ shift * 2 ^ (exponent - shift).toNat,
        2 ^ (-(exponent - shift)).toNat) := by
    rw [ratio, wide, hparts]
  have hlog : significand.log2 < 24 := (Nat.log2_lt (by omega)).mpr hhigh
  have hnormal : 2 ^ 23 ≤ significand → 23 ≤ significand.log2 := (Nat.le_log2 (by omega)).mpr
  have hround := single.roundRatio_shifted hpos (shift + (exponent - shift).toNat)
    (-(exponent - shift)).toNat exponent (by rw [hbits', hunit']; omega) (by omega)
  have hexact : (((shift + (exponent - shift).toNat : Nat) : Int) - (-(exponent - shift)).toNat -
      exponent).toNat = 0 := by omega
  rw [hexact, hbits', hunit', Nat.pow_zero, Nat.mul_one, Int.sub_neg] at hround
  rw [hratio, Nat.mul_assoc, ← Nat.pow_add, hround]

/-- Finite numbers of 32 bits have finite numbers of 64 bits, from which they are rounded back. -/
theorem roundRatio_widened {magnitude : Nat} (hfinite : magnitude < single.infinity) :
    ∃ widened, double.roundRatio (single.ratio magnitude).1 (single.ratio magnitude).2 = widened ∧
      widened < double.infinity ∧
      single.roundRatio (double.ratio widened).1 (double.ratio widened).2 = magnitude := by
  obtain ⟨hbits, hunit, hinfinity⟩ := single_parameters
  obtain ⟨hhigh, hleast, hsplit, hlow⟩ := single.parts_spec magnitude
  have hratio : single.ratio magnitude = ((single.parts magnitude).1 *
      2 ^ (single.parts magnitude).2.toNat, 2 ^ (-(single.parts magnitude).2).toNat) := rfl
  generalize (single.parts magnitude).1 = significand at hhigh hsplit hlow hratio
  generalize (single.parts magnitude).2 = exponent at hleast hsplit hlow hratio
  rw [hbits, hunit] at hsplit hlow
  rw [hbits] at hhigh
  rw [hunit] at hleast
  rw [hratio]
  rcases Nat.eq_zero_or_pos significand with rfl | hpos
  · have hzero : magnitude = 0 := by omega
    subst hzero
    exact ⟨0, by simp [roundRatio], by decide, by decide⟩
  have hlog : significand.log2 < 24 := (Nat.log2_lt (by omega)).mpr hhigh
  obtain ⟨shift, hshift⟩ : ∃ shift, significand.log2 + shift = 52 :=
    ⟨52 - significand.log2, by omega⟩
  obtain ⟨place, hplace⟩ : ∃ place : Nat, (place : Int) = exponent - shift + 1074 :=
    ⟨(exponent - shift + 1074).toNat, by omega⟩
  obtain ⟨hwide, hroom⟩ := roundRatio_wide hpos hshift hplace hleast (by omega)
  refine ⟨_, hwide, hroom, ?_⟩
  rw [roundRatio_of_wide hpos hshift hplace hhigh hlow hleast, ← Int.sub_neg, ← hsplit]
  exact Nat.min_eq_left (by omega)

/-- Infinity leaves the sign bit alone. -/
theorem infinity_lt_signBit (f : FloatFormat) : f.infinity < f.signBit := by
  rw [infinity, signBit, Nat.pow_add]
  exact Nat.mul_lt_mul_of_pos_right (Nat.sub_lt (Nat.two_pow_pos _) (by decide))
    (Nat.two_pow_pos _)

/-- A sign does not change the magnitude. -/
theorem magnitude_withSign (f : FloatFormat) (negative : Bool) {magnitude : Nat}
    (h : magnitude < f.signBit) : f.magnitude (f.withSign negative magnitude) = magnitude := by
  cases negative with
  | false => exact Nat.mod_eq_of_lt h
  | true =>
    change (f.signBit + magnitude) % f.signBit = magnitude
    rw [Nat.add_mod_left, Nat.mod_eq_of_lt h]

/-- The sign of a magnitude is the one that it was given. -/
theorem isNegative_withSign (f : FloatFormat) (negative : Bool) {magnitude : Nat}
    (h : magnitude < f.signBit) : f.isNegative (f.withSign negative magnitude) = negative := by
  cases negative with
  | false => exact decide_eq_false (by simpa [withSign] using h)
  | true => exact decide_eq_true (by simp [withSign])

/-- A pattern is its magnitude with its sign. -/
theorem withSign_magnitude (f : FloatFormat) {bits : Nat} (h : bits < 2 * f.signBit) :
    f.withSign (f.isNegative bits) (f.magnitude bits) = bits := by
  unfold withSign isNegative magnitude
  by_cases hsign : f.signBit ≤ bits
  · have hrest : bits % f.signBit = bits - f.signBit := by
      rw [Nat.mod_eq_sub_mod hsign, Nat.mod_eq_of_lt (by omega)]
    rw [decide_eq_true hsign, if_pos rfl, hrest]
    omega
  · rw [decide_eq_false hsign, if_neg Bool.false_ne_true, Nat.mod_eq_of_lt (by omega)]

/-- A finite number is converted by rounding its value. -/
theorem convert_of_finite {source : FloatFormat} {bits : Nat}
    (h : source.magnitude bits < source.infinity) (target : FloatFormat) :
    source.convert target bits = target.withSign (source.isNegative bits)
      (target.roundRatio (source.ratio (source.magnitude bits)).1
        (source.ratio (source.magnitude bits)).2) := by
  rw [convert]
  simp only
  rw [if_neg (by omega), if_neg (by omega)]

/-- Widening a finite number gives a finite number of 64 bits, which narrows to the same pattern. -/
theorem convert_convert_of_finite {bits : Nat} (hbits : bits < 2 ^ 32)
    (h : single.isFinite bits = true) :
    single.convert double bits < 2 ^ 64 ∧ double.isFinite (single.convert double bits) = true ∧
      double.convert single (single.convert double bits) = bits := by
  have hmagnitude : single.magnitude bits < single.infinity := of_decide_eq_true h
  obtain ⟨wide, hwide, hfinite, hnarrow⟩ := roundRatio_widened hmagnitude
  have hroom : wide < double.signBit := Nat.lt_trans hfinite double.infinity_lt_signBit
  rw [convert_of_finite hmagnitude, hwide]
  generalize hsign : single.isNegative bits = negative
  have hvalue := double.magnitude_withSign negative hroom
  refine ⟨?_, by rw [isFinite, hvalue, decide_eq_true hfinite], ?_⟩
  · have hbit : double.signBit = 2 ^ 63 := by decide
    unfold withSign
    split <;> omega
  · rw [convert_of_finite (by rw [hvalue]; exact hfinite), hvalue, hnarrow,
      double.isNegative_withSign negative hroom, ← hsign]
    exact single.withSign_magnitude hbits

/-- What is not finite does not become finite by widening. -/
theorem isFinite_convert_of_not_finite {bits : Nat} (h : single.isFinite bits = false) :
    single.convert double bits < 2 ^ 64 ∧ double.isFinite (single.convert double bits) = false := by
  have hmagnitude : ¬ single.magnitude bits < single.infinity := of_decide_eq_false h
  rw [convert]
  simp only
  split
  · decide
  · rw [if_pos (by omega)]
    cases single.isNegative bits <;> decide

end FloatFormat

namespace Binary64

/-- A pattern within 64 bits is kept as it is. -/
theorem toNat_ofNat {bits : Nat} (h : bits < 2 ^ 64) : (ofNat bits).bits.toNat = bits :=
  UInt64.toNat_ofNat_of_lt' h

/-- A widened number is finite exactly when the number is. -/
theorem isFinite_ofBinary32 (x : Binary32) : (ofBinary32 x).isFinite = x.isFinite := by
  unfold ofBinary32 isFinite Binary32.isFinite
  cases h : FloatFormat.single.isFinite x.bits.toNat with
  | true =>
    obtain ⟨hroom, hfinite, -⟩ := FloatFormat.convert_convert_of_finite x.bits.toNat_lt h
    rw [toNat_ofNat hroom, hfinite]
  | false =>
    obtain ⟨hroom, hfinite⟩ := FloatFormat.isFinite_convert_of_not_finite h
    rw [toNat_ofNat hroom, hfinite]

/-- Narrowing undoes the widening of a finite number. -/
theorem toBinary32_ofBinary32 {x : Binary32} (h : x.isFinite = true) :
    (ofBinary32 x).toBinary32 = x := by
  obtain ⟨hroom, -, hsame⟩ := FloatFormat.convert_convert_of_finite x.bits.toNat_lt h
  rw [toBinary32, ofBinary32, toNat_ofNat hroom, hsame, Binary32.ofNat, UInt32.ofNat_toNat]

end Binary64

end RowCast

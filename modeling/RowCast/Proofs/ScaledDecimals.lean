import RowCast.Decimal.Rescale
import RowCast.Proofs.DecimalValues

/-!
# Integers as digits of decimals

A 64-bit integer and a scale denote a number, and what is made of them is this number whenever a
decimal has room for it. Scales below zero append zeros to the integer, scales above 28 take zeros
off it, and powers of ten are not formed beyond the thirty-eighth. No number but zero has that many
zeros, in a mantissa or in a 64-bit integer, so that no number but zero is missed.
-/

namespace RowCast.Decimal

/-- The number whose digits are an integer, with `scale` of them behind the point. -/
def scaledNumber (unscaled : Int64) (scale : Int32) : ℚ :=
  unscaled.toInt * 10 ^ (-scale.toInt)

variable {unscaled : Int64} {scale : Int32} {d : Decimal}

/-- A scale moves the point by a power of ten, to the left or to the right. -/
theorem scaledNumber_eq_div (unscaled : Int64) (scale : Int32) :
    scaledNumber unscaled scale =
      ((unscaled.toInt * 10 ^ (-scale.toInt).toNat : Int) : ℚ) / 10 ^ scale.toInt.toNat := by
  have hpower : (10 : ℚ) ^ (-scale.toInt) =
      10 ^ (-scale.toInt).toNat / 10 ^ scale.toInt.toNat := by
    rw [← zpow_natCast, ← zpow_natCast, ← zpow_sub₀ (by norm_num)]
    congr 1
    omega
  rw [scaledNumber, hpower, mul_div_assoc']
  push_cast
  rfl

/-- The number of an integer and a scale in terms of integers. -/
theorem value_eq_scaledNumber_iff :
    d.value = scaledNumber unscaled scale ↔
      d.signedMantissa * 10 ^ scale.toInt.toNat =
        unscaled.toInt * 10 ^ (-scale.toInt).toNat * 10 ^ d.scale := by
  rw [scaledNumber_eq_div, value_eq_div_iff]

/-- A multiple of a power of ten other than zero is at least as large. -/
theorem pow_le_natAbs_mul {n : Int} (hn : n ≠ 0) (k : Nat) : 10 ^ k ≤ (n * 10 ^ k).natAbs := by
  rw [Int.natAbs_mul, Int.natAbs_pow]
  exact Nat.le_mul_of_pos_left _ (Int.natAbs_pos.mpr hn)

/-- No number but zero is below `2 ^ 96` behind 39 zeros or more. -/
theorem le_natAbs_mul_pow {n : Int} (hn : n ≠ 0) {k : Nat} (hk : 38 < k) :
    2 ^ 96 ≤ (n * 10 ^ k).natAbs :=
  calc 2 ^ 96 ≤ 10 ^ 39 := by norm_num
    _ ≤ 10 ^ k := Nat.pow_le_pow_right (by norm_num) hk
    _ ≤ _ := pow_le_natAbs_mul hn k

/-- A 64-bit integer has a magnitude of at most `2 ^ 63`. -/
theorem natAbs_toInt64_le (n : Int64) : n.toInt.natAbs ≤ 2 ^ 63 := by
  have := n.le_toInt
  have := n.toInt_lt
  omega

/-- A 64-bit integer other than zero does not end in more than 38 zeros. -/
theorem emod_pow_ne_zero {n : Int64} (hn : n.toInt ≠ 0) {k : Nat} (hk : 38 < k) :
    n.toInt % 10 ^ k ≠ 0 := by
  intro hdvd
  obtain ⟨q, hq⟩ := Int.dvd_of_emod_eq_zero hdvd
  have hq' : q ≠ 0 := fun h => hn (by rw [hq, h, mul_zero])
  have hlarge : 2 ^ 96 ≤ (q * 10 ^ k).natAbs := le_natAbs_mul_pow hq' hk
  rw [mul_comm, ← hq] at hlarge
  have := natAbs_toInt64_le n
  omega

/-- Scales below zero append zeros, and no number but zero has room for more than 38. -/
theorem ofScaled?_of_neg (hscale : scale.toInt < 0) :
    ofScaled? unscaled scale =
      if unscaled.toInt = 0 ∧ scale.toInt < -38 then none
      else ofMantissa? (unscaled.toInt * 10 ^ (-scale.toInt).toNat) 0 := by
  have hnatAbs : (-scale.toInt).toNat = scale.toInt.natAbs := by omega
  simp only [ofScaled?, if_pos hscale, hnatAbs]
  by_cases hfar : scale.toInt < -38
  · by_cases hzero : unscaled.toInt = 0
    · simp [hfar, hzero]
    · have hlarge : 2 ^ 96 ≤ (unscaled.toInt * 10 ^ scale.toInt.natAbs).natAbs :=
        le_natAbs_mul_pow hzero (by omega)
      rw [if_pos hfar, if_neg (fun h => hzero h.1), ofMantissa?,
        dif_neg fun h => absurd h.1 (Nat.not_lt.mpr hlarge)]
  · rw [if_neg hfar, if_neg fun h => hfar h.2]

/-- Scales above 28 take zeros off the end, and beyond 66 there would be more than 38. -/
theorem ofScaled?_of_gt (hscale : 28 < scale.toInt) :
    ofScaled? unscaled scale =
      if unscaled.toInt % 10 ^ (scale.toInt.toNat - 28) = 0 then
        ofMantissa? (unscaled.toInt / 10 ^ (scale.toInt.toNat - 28)) 28
      else none := by
  simp only [ofScaled?, if_neg (show ¬ scale.toInt < 0 by omega),
    if_neg (show ¬ scale.toInt ≤ 28 by omega)]
  by_cases hzero : unscaled.toInt = 0
  · rw [if_pos hzero, hzero, Int.zero_emod, Int.zero_ediv, if_pos rfl]
    rfl
  · rw [if_neg hzero]
    split
    · next hfar =>
      rw [if_neg (emod_pow_ne_zero hzero (by omega))]
    · rfl

/-- Scales from 0 to 28 are taken as they are. -/
theorem ofScaled?_of_mem (hnonneg : 0 ≤ scale.toInt) (hscale : scale.toInt ≤ 28) :
    ofScaled? unscaled scale = ofMantissa? unscaled.toInt scale.toInt.toNat := by
  simp only [ofScaled?, if_neg (show ¬ scale.toInt < 0 by omega), if_pos hscale]

/-- A quotient without remainder is the integer that the divisor takes back to the dividend. -/
theorem ofMantissa?_ediv_eq_some_iff {n divisor : Int} (hdivisor : divisor ≠ 0) {places : Nat} :
    (if n % divisor = 0 then ofMantissa? (n / divisor) places else none) = some d ↔
      d.signedMantissa * divisor = n ∧ d.scale = places ∧ d.isNegativeZero = false := by
  constructor
  · intro h
    split at h
    · next hdvd =>
      obtain ⟨hdigits, hscale, hsign⟩ := ofMantissa?_eq_some_iff.mp h
      refine ⟨?_, hscale, hsign⟩
      rw [hdigits, Int.ediv_mul_cancel (Int.dvd_of_emod_eq_zero hdvd)]
    · cases h
  · rintro ⟨rfl, hscale, hsign⟩
    rw [Int.mul_emod_left, if_pos rfl, Int.mul_ediv_cancel _ hdivisor]
    exact ofMantissa?_eq_some_iff.mpr ⟨rfl, hscale, hsign⟩

/--
What is answered is the number at the scale brought into the range from 0 to 28, without a minus
sign for zero. Zero itself is not answered for scales below -38.
-/
theorem ofScaled?_eq_some_iff :
    ofScaled? unscaled scale = some d ↔
      d.value = scaledNumber unscaled scale ∧ d.scale = clampScale scale ∧
        d.isNegativeZero = false ∧ ¬ (unscaled.toInt = 0 ∧ scale.toInt < -38) := by
  rw [value_eq_scaledNumber_iff]
  unfold clampScale
  rcases lt_or_ge scale.toInt 0 with hneg | hnonneg
  · have hplaces : scale.toInt.toNat = 0 := by omega
    rw [ofScaled?_of_neg hneg, hplaces, Nat.zero_min, pow_zero, mul_one]
    split
    · next hfar => simp [hfar]
    · next hnear =>
      rw [ofMantissa?_eq_some_iff]
      constructor
      · rintro ⟨hdigits, hscale, hsign⟩
        exact ⟨by simp [hdigits, hscale], hscale, hsign, hnear⟩
      · rintro ⟨hdigits, hscale, hsign, -⟩
        exact ⟨by simpa [hscale] using hdigits, hscale, hsign⟩
  have hzeros : (-scale.toInt).toNat = 0 := by omega
  have hnear : ¬ (unscaled.toInt = 0 ∧ scale.toInt < -38) := by omega
  rw [hzeros, pow_zero, mul_one, and_iff_left hnear]
  rcases le_or_gt scale.toInt 28 with hle | hgt
  · have hplaces : min scale.toInt.toNat 28 = scale.toInt.toNat := by omega
    rw [ofScaled?_of_mem hnonneg hle, ofMantissa?_eq_some_iff, hplaces]
    refine and_congr_left fun h => ?_
    rw [h.1]
    exact (Int.mul_eq_mul_right_iff (by positivity)).symm
  · have hplaces : min scale.toInt.toNat 28 = 28 := by omega
    obtain ⟨k, hk⟩ : ∃ k, scale.toInt.toNat = k + 28 := ⟨scale.toInt.toNat - 28, by omega⟩
    rw [ofScaled?_of_gt hgt, hplaces, hk, Nat.add_sub_cancel,
      ofMantissa?_ediv_eq_some_iff (by positivity)]
    refine and_congr_left fun h => ?_
    rw [h.1, pow_add, ← mul_assoc]
    exact (Int.mul_eq_mul_right_iff (by norm_num)).symm

/-- The digits of a number beyond the 28 places that decimals have are zeros. -/
theorem pow_dvd_of_value (hscale : 28 < scale.toInt) (h : d.value = scaledNumber unscaled scale) :
    (10 : Int) ^ (scale.toInt.toNat - 28) ∣ unscaled.toInt := by
  have hzeros : (-scale.toInt).toNat = 0 := by omega
  have hsplit : scale.toInt.toNat = (28 - d.scale) + (scale.toInt.toNat - 28) + d.scale := by
    have := d.scale_le
    omega
  rw [value_eq_scaledNumber_iff, hzeros, pow_zero, mul_one, hsplit, pow_add, ← mul_assoc] at h
  have hproduct := Int.eq_of_mul_eq_mul_right (by positivity) h
  rw [← hproduct, pow_add]
  exact Dvd.dvd.mul_left (Dvd.intro_left _ rfl) _

/-- A number that any decimal stands for is answered, but for zero with a scale below -38. -/
theorem exists_ofScaled? (h : d.value = scaledNumber unscaled scale)
    (hnear : ¬ (unscaled.toInt = 0 ∧ scale.toInt < -38)) :
    ∃ e, ofScaled? unscaled scale = some e := by
  have hsmall := natAbs_toInt64_le unscaled
  rcases lt_or_ge scale.toInt 0 with hneg | hnonneg
  · rw [ofScaled?_of_neg hneg, if_neg hnear]
    refine exists_ofMantissa? ?_ (Nat.zero_le 28)
    have hplaces : scale.toInt.toNat = 0 := by omega
    rw [value_eq_scaledNumber_iff, hplaces, pow_zero, mul_one] at h
    calc (unscaled.toInt * 10 ^ (-scale.toInt).toNat).natAbs
        ≤ d.signedMantissa.natAbs := by
          rw [h, Int.natAbs_mul _ (10 ^ d.scale)]
          exact Nat.le_mul_of_pos_right _ (by positivity)
      _ < 2 ^ 96 := d.natAbs_signedMantissa ▸ d.mantissa_lt
  rcases le_or_gt scale.toInt 28 with hle | hgt
  · rw [ofScaled?_of_mem hnonneg hle]
    exact exists_ofMantissa? (by omega) (by omega)
  · rw [ofScaled?_of_gt hgt, if_pos (Int.emod_eq_zero_of_dvd (pow_dvd_of_value hgt h))]
    refine exists_ofMantissa? ?_ (Nat.le_refl 28)
    calc _ ≤ unscaled.toInt.natAbs := Int.natAbs_ediv_le_natAbs _ _
      _ < 2 ^ 96 := by omega

/-!
### Computation in machine words

The same number as it is computed in words of 32 and 128 bits. Powers of ten and products are
checked and give no answer where they do not fit; everything else must fit.
-/

/-- What stops a computation in machine words. -/
inductive WordFault where
  | overflow
  | zeroDivisor

/-- An unchecked result in a signed word of 128 bits, which must have room for it. -/
def unchecked (n : Int) : Except WordFault Int :=
  if -2 ^ 127 ≤ n ∧ n < 2 ^ 127 then .ok n else .error .overflow

/-- A checked result in a signed word of 128 bits, if that has room for it. -/
def checked? (n : Int) : Option Int :=
  if -2 ^ 127 ≤ n ∧ n < 2 ^ 127 then some n else none

/-- An unchecked result in an unsigned word of 32 bits, which must have room for it. -/
def uncheckedPlaces (n : Int) : Except WordFault Nat :=
  if 0 ≤ n ∧ n < 2 ^ 32 then .ok n.toNat else .error .overflow

/-- A quotient cut towards zero and its remainder. -/
def uncheckedDivMod (n divisor : Int) : Except WordFault (Int × Int) := do
  if divisor = 0 then .error .zeroDivisor
  else
    let quotient ← unchecked (n.tdiv divisor)
    pure (quotient, n.tmod divisor)

/--
The exact value of `unscaled / 10 ^ scale` as it is computed in machine words: places are counted in
32 bits, digits are multiplied and divided in 128.
-/
def ofScaledInWords (unscaled : Int64) (scale : Int32) : Except WordFault (Option Decimal) := do
  let n ← unchecked unscaled.toInt
  if scale.toInt < 0 then
    let places ← uncheckedPlaces scale.toInt.natAbs
    pure ((checked? (10 ^ places)).bind fun factor =>
      (checked? (n * factor)).bind fun product => ofMantissa? product 0)
  else
    let places ← uncheckedPlaces scale.toInt
    if places ≤ 28 then pure (ofMantissa? n places)
    else if n = 0 then pure (some (zero 28))
    else
      let excess ← uncheckedPlaces (places - 28)
      match checked? (10 ^ excess) with
      | none => pure none
      | some divisor =>
        let (quotient, remainder) ← uncheckedDivMod n divisor
        pure (if remainder = 0 then ofMantissa? quotient 28 else none)

/-- Powers of ten fit a signed word of 128 bits up to the thirty-eighth. -/
theorem checked?_pow (k : Nat) :
    checked? (10 ^ k) = if k ≤ 38 then some ((10 : Int) ^ k) else none := by
  unfold checked?
  by_cases hk : k ≤ 38
  · have hroom : (10 : Int) ^ k ≤ 10 ^ 38 := pow_le_pow_right₀ (by norm_num) hk
    have hpositive : (0 : Int) < 10 ^ k := by positivity
    rw [if_pos hk, if_pos (by omega)]
  · have hlarge : (10 : Int) ^ 39 ≤ 10 ^ k := pow_le_pow_right₀ (by norm_num) (by omega)
    rw [if_neg hk, if_neg (by omega)]

/-- An integer that leaves 128 bits leaves the mantissa as well. -/
theorem bind_checked?_ofMantissa? (n : Int) (places : Nat) :
    ((checked? n).bind fun n => ofMantissa? n places) = ofMantissa? n places := by
  unfold checked?
  split
  · rfl
  · have hlarge : ¬ (n.natAbs < 2 ^ 96 ∧ places ≤ 28) := by omega
    rw [ofMantissa?, dif_neg hlarge]
    rfl

/-- A 64-bit integer fits a word of 128 bits. -/
theorem unchecked_toInt64 (n : Int64) : unchecked n.toInt = .ok n.toInt := by
  have := natAbs_toInt64_le n
  exact if_pos (by omega)

/-- Dividing a 64-bit integer by a power of ten does not fail. -/
theorem uncheckedDivMod_pow (n : Int64) (k : Nat) :
    uncheckedDivMod n.toInt (10 ^ k) = .ok (n.toInt.tdiv (10 ^ k), n.toInt.tmod (10 ^ k)) := by
  have hquotient : unchecked (n.toInt.tdiv (10 ^ k)) = .ok (n.toInt.tdiv (10 ^ k)) := by
    have := natAbs_toInt64_le n
    have := Int.natAbs_tdiv_le_natAbs n.toInt (10 ^ k)
    exact if_pos (by omega)
  rw [uncheckedDivMod, if_neg (by positivity), hquotient]
  rfl

/-- Without a remainder it does not matter which way a quotient is rounded. -/
theorem ofMantissa?_tdiv (n divisor : Int) (places : Nat) :
    (if n.tmod divisor = 0 then ofMantissa? (n.tdiv divisor) places else none) =
      if n % divisor = 0 then ofMantissa? (n / divisor) places else none := by
  by_cases hdvd : divisor ∣ n
  · rw [if_pos (Int.tmod_eq_zero_of_dvd hdvd), if_pos (Int.emod_eq_zero_of_dvd hdvd),
      Int.tdiv_eq_ediv_of_dvd hdvd]
  · rw [if_neg fun h => hdvd (Int.dvd_of_tmod_eq_zero h),
      if_neg fun h => hdvd (Int.dvd_of_emod_eq_zero h)]

/-- The number of places of a 32-bit scale fits 32 bits without a sign. -/
theorem uncheckedPlaces_of_le {n : Int} (h : 0 ≤ n) (h' : n ≤ 2 ^ 31) :
    uncheckedPlaces n = .ok n.toNat :=
  if_pos (by omega)

/-- A computation goes on with a result that fits. -/
theorem ok_bind {α β : Type} (a : α) (f : α → Except WordFault β) :
    (Except.ok a >>= f) = f a := rfl

variable (unscaled : Int64) (scale : Int32)

/-- Appending zeros leaves no word, since powers and products are checked. -/
theorem ofScaledInWords_of_neg (hneg : scale.toInt < 0) :
    ofScaledInWords unscaled scale = .ok (ofScaled? unscaled scale) := by
  have hlower := scale.le_toInt
  rw [ofScaledInWords, unchecked_toInt64, ok_bind, if_pos hneg,
    uncheckedPlaces_of_le (by omega) (by omega), ok_bind, Int.toNat_natCast, checked?_pow]
  by_cases hfar : scale.toInt < -38
  · rw [if_neg (show ¬ scale.toInt.natAbs ≤ 38 by omega)]
    simp only [ofScaled?, if_pos hneg, if_pos hfar]
    rfl
  · rw [if_pos (show scale.toInt.natAbs ≤ 38 by omega), Option.bind_some,
      bind_checked?_ofMantissa?]
    simp only [ofScaled?, if_pos hneg, if_neg hfar]
    rfl

/-- Taking zeros off the end leaves no word, since no divisor is zero and quotients are small. -/
theorem ofScaledInWords_of_gt (hgt : 28 < scale.toInt) :
    ofScaledInWords unscaled scale = .ok (ofScaled? unscaled scale) := by
  have hupper := scale.toInt_lt
  have hneg : ¬ scale.toInt < 0 := by omega
  have hle : ¬ scale.toInt ≤ 28 := by omega
  rw [ofScaledInWords, unchecked_toInt64, ok_bind, if_neg hneg,
    uncheckedPlaces_of_le (by omega) (by omega), ok_bind, if_neg (by omega)]
  split
  · next hzero =>
    simp only [ofScaled?, if_neg hneg, if_neg hle, if_pos hzero]
    rfl
  · next hzero =>
    have hexcess : ((scale.toInt.toNat : Int) - 28).toNat = scale.toInt.toNat - 28 := by omega
    rw [uncheckedPlaces_of_le (by omega) (by omega), ok_bind, hexcess, checked?_pow]
    by_cases hfar : 66 < scale.toInt
    · rw [if_neg (show ¬ scale.toInt.toNat - 28 ≤ 38 by omega)]
      simp only [ofScaled?, if_neg hneg, if_neg hle, if_neg hzero, if_pos hfar]
      rfl
    · rw [if_pos (show scale.toInt.toNat - 28 ≤ 38 by omega)]
      dsimp only
      rw [uncheckedDivMod_pow, ok_bind]
      dsimp only
      rw [ofMantissa?_tdiv, ofScaled?_of_gt hgt]
      rfl

/-- Computing in machine words never leaves a word, and gives the exact answer. -/
theorem ofScaledInWords_eq :
    ofScaledInWords unscaled scale = .ok (ofScaled? unscaled scale) := by
  rcases lt_or_ge scale.toInt 0 with hneg | hnonneg
  · exact ofScaledInWords_of_neg unscaled scale hneg
  rcases le_or_gt scale.toInt 28 with hle | hgt
  · rw [ofScaledInWords, unchecked_toInt64, ok_bind, if_neg (by omega),
      uncheckedPlaces_of_le hnonneg (by omega), ok_bind, if_pos (by omega),
      ofScaled?_of_mem hnonneg hle]
    rfl
  · exact ofScaledInWords_of_gt unscaled scale hgt

/-- The zero with a scale below -38, in terms of integers. -/
theorem isFarZero_iff {unscaled : Int64} {scale : Int32} :
    (unscaled = 0 ∧ scale < -38) ↔ unscaled.toInt = 0 ∧ scale.toInt < -38 := by
  rw [← Int64.toInt_inj, Int32.lt_iff_toInt_lt]
  rfl

/--
The number of an integer and a scale is answered exactly if any decimal stands for it, at the scale
brought into the range from 0 to 28, and no word is left on the way. Only a zero with a scale below
-38 is not answered, as its power of ten is formed first.
-/
theorem ofScaled?_answers_unless_far_zero :
    (∀ d, ofScaled? unscaled scale = some d →
        d.value = scaledNumber unscaled scale ∧ d.scale = clampScale scale) ∧
      ((ofScaled? unscaled scale).isSome = true ↔
        (∃ d : Decimal, d.value = scaledNumber unscaled scale) ∧
          ¬ (unscaled = 0 ∧ scale < -38)) ∧
      ofScaledInWords unscaled scale = .ok (ofScaled? unscaled scale) := by
  rw [isFarZero_iff, Option.isSome_iff_exists]
  refine ⟨fun d hd => ?_, ⟨?_, ?_⟩, ofScaledInWords_eq unscaled scale⟩
  · obtain ⟨hvalue, hscale, -⟩ := ofScaled?_eq_some_iff.mp hd
    exact ⟨hvalue, hscale⟩
  · rintro ⟨d, hd⟩
    obtain ⟨hvalue, -, -, hnear⟩ := ofScaled?_eq_some_iff.mp hd
    exact ⟨⟨d, hvalue⟩, hnear⟩
  · rintro ⟨⟨d, hvalue⟩, hnear⟩
    exact exists_ofScaled? hvalue hnear

/-- Zero is not answered with a scale of -39, though a decimal stands for it. -/
theorem ofScaled?_none_of_far_zero :
    ofScaled? 0 (-39) = none ∧ (zero 0).value = scaledNumber 0 (-39) := by
  refine ⟨rfl, ?_⟩
  simp [value, zero, signedMantissa, scaledNumber]

end RowCast.Decimal

import Mathlib.Algebra.Group.Nat.Defs
import RowCast.Text.Digits

/-!
# Numbers behind their digits

The digits that a number is written with are all that a reader of digits takes from the front of a
text, and they have the value of the number, with and without zeros in front.
-/

namespace RowCast.Text

/-- A digit has the value that it was written for. -/
theorem digitValue?_digitChar {d : Nat} (h : d < 10) : digitValue? (digitChar d) = some d := by
  revert d
  decide

/-- What is written for a number below ten is a digit. -/
theorem isDigit_digitChar {d : Nat} (h : d < 10) : isDigit (digitChar d) = true := by
  rw [isDigit, digitValue?_digitChar h]
  rfl

/-- The digits are ten characters in a row. -/
theorem toNat_of_isDigit {c : Char} (h : isDigit c = true) : 48 ≤ c.toNat ∧ c.toNat ≤ 57 := by
  simp only [isDigit, digitValue?] at h
  split at h
  · next hc =>
    simp only [Char.le_def, UInt32.le_iff_toNat_le] at hc
    exact hc
  · cases h

/-- Digits have no case. -/
theorem toLower_of_isDigit {c : Char} (h : isDigit c = true) : c.toLower = c := by
  have hrange := toNat_of_isDigit h
  have hsmall : ¬(c.val ≥ 'A'.val ∧ c.val ≤ 'Z'.val) := by
    rintro ⟨hcapital, -⟩
    have hle : 65 ≤ c.toNat := UInt32.le_iff_toNat_le.mp hcapital
    omega
  exact dif_neg hsmall

/-- Digits that are put before a text leave the rest of it alone. -/
theorem digitsOnto_append (fuel n : Nat) (tail more : List Char) :
    digitsOnto fuel n (tail ++ more) = digitsOnto fuel n tail ++ more := by
  induction fuel generalizing n tail with
  | zero => rfl
  | succ fuel ih =>
    unfold digitsOnto
    split
    · rfl
    · rw [← List.cons_append, ih]

/-- Fuel above the number is enough, however much it is. -/
theorem digitsOnto_fuel {fuel fuel' n : Nat} (h : n < fuel) (h' : n < fuel') (tail : List Char) :
    digitsOnto fuel n tail = digitsOnto fuel' n tail := by
  induction fuel generalizing fuel' n tail with
  | zero => omega
  | succ fuel ih =>
    cases fuel' with
    | zero => omega
    | succ fuel' =>
      unfold digitsOnto
      split
      · rfl
      · exact ih (by omega) (by omega) _

/-- A number below ten is one digit, any other the text of its tenth and its last digit. -/
theorem natText_eq (n : Nat) :
    natText n = if n < 10 then [digitChar n] else natText (n / 10) ++ [digitChar (n % 10)] := by
  unfold natText
  rw [digitsOnto]
  split
  · rfl
  · rw [← List.nil_append [_], digitsOnto_append, List.nil_append,
      digitsOnto_fuel (by omega) (Nat.lt_succ_self (n / 10))]

/-- The text of a number has nothing but digits. -/
theorem isDigit_of_mem_natText {n : Nat} {c : Char} (h : c ∈ natText n) : isDigit c = true := by
  induction n using Nat.strongRecOn with
  | ind n ih =>
    rw [natText_eq] at h
    split at h
    · next hsmall =>
      rw [List.mem_singleton.mp h]
      exact isDigit_digitChar hsmall
    · rcases List.mem_append.mp h with h | h
      · exact ih (n / 10) (by omega) h
      · rw [List.mem_singleton.mp h]
        exact isDigit_digitChar (by omega)

/-- A number has at least one digit. -/
theorem natText_ne_nil (n : Nat) : natText n ≠ [] := by
  rw [natText_eq]
  split <;> simp

/-- A number below a power of ten has at most as many digits as the power has zeros. -/
theorem natText_length_le {n k : Nat} (h : n < 10 ^ (k + 1)) : (natText n).length ≤ k + 1 := by
  induction k generalizing n with
  | zero =>
    rw [natText_eq, if_pos (by simpa using h)]
    exact Nat.le_refl 1
  | succ k ih =>
    rw [natText_eq]
    split
    · simp
    · have htenth : n / 10 < 10 ^ (k + 1) := by
        rw [Nat.pow_succ] at h
        exact Nat.div_lt_of_lt_mul (by omega)
      simpa using ih htenth

/-- Digits are read from left to right. -/
theorem digitsValue_append (acc : Nat) (front back : List Char) :
    digitsValue acc (front ++ back) = digitsValue (digitsValue acc front) back := by
  induction front generalizing acc with
  | nil => rfl
  | cons c front ih => exact ih _

/-- Reading further digits never makes a number smaller. -/
theorem le_digitsValue (acc : Nat) (s : List Char) : acc ≤ digitsValue acc s := by
  induction s generalizing acc with
  | nil => exact Nat.le_refl acc
  | cons c s ih => exact Nat.le_trans (by omega) (ih _)

/-- The digits of a number have its value. -/
theorem digitsValue_natText (n : Nat) : digitsValue 0 (natText n) = n := by
  induction n using Nat.strongRecOn with
  | ind n ih =>
    rw [natText_eq]
    split
    · next hsmall => simp [digitsValue, digitValue?_digitChar hsmall]
    · rw [digitsValue_append, ih (n / 10) (by omega), digitsValue,
        digitValue?_digitChar (by omega), digitsValue, Option.getD_some]
      omega

/-- Zeros in front of a number do not count. -/
theorem digitsValue_replicate_zero (k : Nat) (s : List Char) :
    digitsValue 0 (List.replicate k '0' ++ s) = digitsValue 0 s := by
  induction k with
  | zero => rfl
  | succ k ih => exact ih

/-- The digits of a number filled up with zeros are still digits. -/
theorem isDigit_of_mem_paddedText {width n : Nat} {c : Char} (h : c ∈ paddedText width n) :
    isDigit c = true := by
  rcases List.mem_append.mp h with h | h
  · rw [List.eq_of_mem_replicate h]
    rfl
  · exact isDigit_of_mem_natText h

/-- The digits of a number filled up with zeros have its value. -/
theorem digitsValue_paddedText (width n : Nat) : digitsValue 0 (paddedText width n) = n := by
  rw [paddedText, digitsValue_replicate_zero, digitsValue_natText]

/-- A number is filled up to the width, if it is not longer already. -/
theorem paddedText_length (width n : Nat) :
    (paddedText width n).length = max width (natText n).length := by
  rw [paddedText, List.length_append, List.length_replicate]
  omega

/-- A number that fits into a width is filled up to just this width. -/
theorem paddedText_length_of_lt {k n : Nat} (h : n < 10 ^ (k + 1)) :
    (paddedText (k + 1) n).length = k + 1 := by
  rw [paddedText_length, Nat.max_eq_left (natText_length_le h)]

/-- Digits filled up with zeros are never missing. -/
theorem paddedText_ne_nil (width n : Nat) : paddedText width n ≠ [] := by
  simp [paddedText, natText_ne_nil]

/-- Whether a text begins with a digit. -/
def startsWithDigit : List Char → Bool
  | [] => false
  | c :: _ => isDigit c

/-- Digits end where a text goes on with something else. -/
theorem spanDigits_append {digits rest : List Char} (hdigits : ∀ c ∈ digits, isDigit c = true)
    (hrest : startsWithDigit rest = false) : spanDigits (digits ++ rest) = (digits, rest) := by
  have hstop : rest.takeWhile isDigit = [] ∧ rest.dropWhile isDigit = rest := by
    cases rest with
    | nil => exact ⟨rfl, rfl⟩
    | cons c rest =>
      have hc : isDigit c = false := hrest
      simp [hc]
  rw [spanDigits, List.takeWhile_append_of_pos hdigits, List.dropWhile_append_of_pos hdigits,
    hstop.1, hstop.2, List.append_nil]

end RowCast.Text

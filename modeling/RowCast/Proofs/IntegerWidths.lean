import Mathlib.Algebra.Group.Int.Defs
import RowCast.Column.IntegerWidth
import RowCast.Value.Basic

/-!
# Integers at their widths

Which integers a width holds, and the values that hold them. An integer that a width holds is the
same integer at every wider one.
-/

namespace RowCast

/-- The integer in a value, whatever its width. -/
def Value.integer? (v : Value) : Option Int :=
  v.asInt64?.map (·.toInt)

namespace IntegerWidth

variable {width wider : IntegerWidth} {n : Int}

/-- A width holds the numbers between two powers of two. -/
theorem holds_iff :
    width.holds n = true ↔ -2 ^ (width.bits - 1) ≤ n ∧ n < 2 ^ (width.bits - 1) := by
  unfold holds least greatest
  rw [Bool.and_eq_true, decide_eq_true_iff, decide_eq_true_iff, Int.le_sub_one_iff]

/-- A wider width holds more. -/
theorem holds_of_le (hbits : width.bits ≤ wider.bits) (h : width.holds n = true) :
    wider.holds n = true := by
  have hpow : (2 : Int) ^ (width.bits - 1) ≤ 2 ^ (wider.bits - 1) := by
    cases width <;> cases wider <;> revert hbits <;> decide
  rw [holds_iff] at h ⊢
  omega

/-- Zero is between the bounds of every width. -/
theorem least_le_zero_le_greatest (width : IntegerWidth) :
    width.least ≤ 0 ∧ 0 ≤ width.greatest := by
  cases width <;> decide

/-- The value of a width for an integer. -/
def toValue (width : IntegerWidth) (n : Int) : Value :=
  match width with
  | int8 => .int8 (.ofInt n)
  | int16 => .int16 (.ofInt n)
  | int32 => .int32 (.ofInt n)
  | int64 => .int64 (.ofInt n)

/-- The value for an integer that the width holds has just this integer in it. -/
theorem integer?_toValue (h : width.holds n = true) : (width.toValue n).integer? = some n := by
  obtain ⟨hleast, hgreatest⟩ := holds_iff.mp h
  cases width with
  | int8 => simp [toValue, Value.integer?, Value.asInt64?, Int8.toInt_ofInt_of_le hleast hgreatest]
  | int16 =>
    simp [toValue, Value.integer?, Value.asInt64?, Int16.toInt_ofInt_of_le hleast hgreatest]
  | int32 =>
    simp [toValue, Value.integer?, Value.asInt64?, Int32.toInt_ofInt_of_le hleast hgreatest]
  | int64 =>
    simp [toValue, Value.integer?, Value.asInt64?, Int64.toInt_ofInt_of_le hleast hgreatest]

/-- A word is the value of its width for an integer that the width holds. -/
theorem toValue_toInt :
    (∀ n : Int8, int8.holds n.toInt = true ∧ int8.toValue n.toInt = .int8 n) ∧
      (∀ n : Int16, int16.holds n.toInt = true ∧ int16.toValue n.toInt = .int16 n) ∧
      (∀ n : Int32, int32.holds n.toInt = true ∧ int32.toValue n.toInt = .int32 n) ∧
      ∀ n : Int64, int64.holds n.toInt = true ∧ int64.toValue n.toInt = .int64 n :=
  ⟨fun n => ⟨holds_iff.mpr ⟨n.le_toInt, n.toInt_lt⟩, by simp [toValue]⟩,
    fun n => ⟨holds_iff.mpr ⟨n.le_toInt, n.toInt_lt⟩, by simp [toValue]⟩,
    fun n => ⟨holds_iff.mpr ⟨n.le_toInt, n.toInt_lt⟩, by simp [toValue]⟩,
    fun n => ⟨holds_iff.mpr ⟨n.le_toInt, n.toInt_lt⟩, by simp [toValue]⟩⟩

end IntegerWidth

end RowCast

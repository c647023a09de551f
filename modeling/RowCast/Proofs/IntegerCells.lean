import RowCast.Proofs.DecimalValues
import RowCast.Proofs.WellTyped

/-!
# Integers read from cells

A cell that holds a number is read as an integer exactly if the number is one that the width of the
read holds, and the read answers just this number. Decimals may have any number of places, as long
as nothing but zeros stands behind the point.
-/

namespace RowCast

/-- A decimal stands for an integer exactly if its digits are those of the integer and zeros. -/
theorem Decimal.value_eq_intCast_iff {d : Decimal} {n : Int} :
    d.value = n ↔ d.signedMantissa = n * 10 ^ d.scale := by
  have hcross := @value_eq_div_iff d n 0
  rwa [pow_zero, div_one, pow_zero, mul_one] at hcross

/-- A decimal has the integer that it stands for, if it stands for one. -/
theorem Decimal.toInt?_eq_some_iff {d : Decimal} {n : Int} : d.toInt? = some n ↔ d.value = n := by
  have hpos : (10 ^ d.scale : Int) ≠ 0 := by positivity
  rw [value_eq_intCast_iff, toInt?]
  split
  · next hzeros =>
    have hwhole : d.mantissa = d.mantissa / 10 ^ d.scale * 10 ^ d.scale :=
      (Nat.div_mul_cancel (Nat.dvd_of_mod_eq_zero hzeros)).symm
    generalize d.mantissa / 10 ^ d.scale = whole at hwhole
    have hsigned : d.signedMantissa =
        (if d.negative then -(whole : Int) else whole) * 10 ^ d.scale := by
      rw [signedMantissa, hwhole]
      cases d.negative <;> simp
    rw [hsigned, mul_left_inj' hpos, Option.some.injEq]
  · next hdigits =>
    refine iff_of_false (Option.some_ne_none n).symm fun h => hdigits ?_
    have hmantissa : d.mantissa = n.natAbs * 10 ^ d.scale := by
      rw [← d.natAbs_signedMantissa, h, Int.natAbs_mul, Int.natAbs_pow]
      rfl
    rw [hmantissa, Nat.mul_mod_left]

/--
The number in a cell that integers are read from: zero for NULL, zero or one for a truth value, and
the number itself for an integer or a decimal.
-/
def Cell.number? : Cell → Option ℚ
  | .value .null => some 0
  | .value (.bool b) => some (if b then 1 else 0)
  | .value (.int8 n) => some n.toInt
  | .value (.int16 n) => some n.toInt
  | .value (.int32 n) => some n.toInt
  | .value (.int64 n) => some n.toInt
  | .value (.decimal d) => some d.value
  | _ => none

/-- The integer in a word is the number in a cell with the word. -/
theorem Cell.number?_of_integer? {v : Value} {n : Int} (h : v.integer? = some n) :
    Cell.number? (.value v) = some (n : ℚ) := by
  cases v with
  | int8 x | int16 x | int32 x =>
    have hsame : x.toInt64.toInt = n := Option.some.inj h
    rw [number?, ← hsame, x.toInt_toInt64]
  | int64 x =>
    cases h
    rfl
  | _ => cases h

namespace ResultTable

variable {t : ResultTable} {index : Nat} {cell : Cell} {n : Int}

/-- What a cell is read as is the number in it, if that is known to fit 64 bits. -/
theorem ok_eq_ok_iff_number {m : Int} (hm : IntegerWidth.int64.holds m = true) :
    (Except.ok m : Except Error Int) = .ok n ↔
      some (m : ℚ) = some (n : ℚ) ∧ IntegerWidth.int64.holds n = true := by
  simp only [Except.ok.injEq, Option.some.injEq, Int.cast_inj]
  exact ⟨fun h => ⟨h, h ▸ hm⟩, fun h => h.1⟩

/-- A decimal is read as the integer that it stands for, if there is one that fits 64 bits. -/
theorem integerOf_decimal_eq_ok_iff {d : Decimal} :
    integerOf (.value (.decimal d)) = .ok n ↔
      some d.value = some (n : ℚ) ∧ IntegerWidth.int64.holds n = true := by
  simp only [integerOf]
  cases hd : d.toInt? with
  | none =>
    have hnone : d.value ≠ n := fun h => by
      rw [Decimal.toInt?_eq_some_iff.mpr h] at hd
      cases hd
    simp [hnone]
  | some m =>
    rw [Decimal.toInt?_eq_some_iff.mp hd]
    dsimp only
    split
    · next hm => exact ok_eq_ok_iff_number hm
    · next hm =>
      constructor
      · intro h
        cases h
      · rintro ⟨hn, hholds⟩
        rw [← Int.cast_inj.mp (Option.some.inj hn)] at hholds
        exact absurd hholds hm

/-- An integer is answered for a cell exactly if it is the number in the cell and fits 64 bits. -/
theorem integerOf_eq_ok_iff :
    integerOf cell = .ok n ↔ cell.number? = some (n : ℚ) ∧ IntegerWidth.int64.holds n = true := by
  have hword (x : Int64) : IntegerWidth.int64.holds x.toInt = true :=
    IntegerWidth.holds_iff.mpr ⟨x.le_toInt, x.toInt_lt⟩
  cases cell with
  | value v =>
    cases v with
    | null => exact_mod_cast ok_eq_ok_iff_number (m := 0) (by decide)
    | bool b => cases b <;> exact_mod_cast ok_eq_ok_iff_number (by decide)
    | int8 x =>
      rw [Cell.number?, ← x.toInt_toInt64]
      exact ok_eq_ok_iff_number (hword x.toInt64)
    | int16 x =>
      rw [Cell.number?, ← x.toInt_toInt64]
      exact ok_eq_ok_iff_number (hword x.toInt64)
    | int32 x =>
      rw [Cell.number?, ← x.toInt_toInt64]
      exact ok_eq_ok_iff_number (hword x.toInt64)
    | int64 x => exact ok_eq_ok_iff_number (hword x)
    | decimal d => exact integerOf_decimal_eq_ok_iff
    | _ => simp [integerOf, Cell.number?, Value.asInt64?]
  | _ => simp [integerOf, Cell.number?]

/-- An integer is answered at a width exactly if the width holds it and it is in the cell. -/
theorem narrowOf_eq_ok_iff_number {width : IntegerWidth} {target : String} :
    narrowOf width target cell = .ok n ↔ cell.number? = some (n : ℚ) ∧ width.holds n = true := by
  rw [narrowOf_eq_ok_iff, integerOf_eq_ok_iff, and_assoc]
  have hwidest : width.holds n = true → IntegerWidth.int64.holds n = true :=
    IntegerWidth.holds_of_le (by cases width <;> decide)
  exact and_congr_right fun _ => ⟨fun h => h.2, fun h => ⟨hwidest h, h⟩⟩

/-- No integer is wrapped in a word, if words are made of integers that the width holds. -/
theorem fetch_word_eq_ok_iff {α : Type} {width : IntegerWidth} {read : Cell → Except Error Int}
    {ofInt : Int → α} {toInt : α → Int}
    (hread : ∀ cell m, read cell = .ok m ↔ cell.number? = some (m : ℚ) ∧ width.holds m = true)
    (hexact : ∀ m, width.holds m = true → toInt (ofInt m) = m) :
    ((fetch (fun cell => (read cell).map ofInt) index).map toInt t).1 = .ok n ↔
      ∃ cell, t.cell index = .ok cell ∧ cell.number? = some (n : ℚ) ∧ width.holds n = true := by
  rw [Step.map_apply]
  constructor
  · intro h
    obtain ⟨word, hword, rfl⟩ := Except.exists_of_map_ok h
    obtain ⟨cell, hcell, hmade⟩ := fetch_eq_ok_iff.mp hword
    obtain ⟨m, hm, rfl⟩ := Except.exists_of_map_ok hmade
    obtain ⟨hnumber, hholds⟩ := (hread cell m).mp hm
    rw [hexact m hholds]
    exact ⟨cell, hcell, hnumber, hholds⟩
  · rintro ⟨cell, hcell, h⟩
    have hword : (fetch (fun cell => (read cell).map ofInt) index t).1 = .ok (ofInt n) :=
      fetch_eq_ok_iff.mpr ⟨cell, hcell, by rw [(hread cell n).mpr h]; rfl⟩
    rw [hword]
    exact congrArg Except.ok (hexact n h.2)

/-- The getter of the integers of a width, with what it answers as an integer. -/
def getInteger (width : IntegerWidth) (index : Nat) : Step ResultTable Int :=
  match width with
  | .int8 => (rowSource.getInt8 index).map (·.toInt)
  | .int16 => (rowSource.getInt16 index).map (·.toInt)
  | .int32 => (rowSource.getInt32 index).map (·.toInt)
  | .int64 => (rowSource.getInt64 index).map (·.toInt)

/-- The getter of a width answers the number in a cell, if it is an integer that the width holds. -/
theorem getInteger_eq_ok_iff {width : IntegerWidth} :
    (getInteger width index t).1 = .ok n ↔
      ∃ cell, t.cell index = .ok cell ∧ cell.number? = some (n : ℚ) ∧ width.holds n = true := by
  cases width with
  | int8 =>
    refine fetch_word_eq_ok_iff (fun _ _ => narrowOf_eq_ok_iff_number) fun m hm => ?_
    exact Int8.toInt_ofInt_of_le (IntegerWidth.holds_iff.mp hm).1 (IntegerWidth.holds_iff.mp hm).2
  | int16 =>
    refine fetch_word_eq_ok_iff (fun _ _ => narrowOf_eq_ok_iff_number) fun m hm => ?_
    exact Int16.toInt_ofInt_of_le (IntegerWidth.holds_iff.mp hm).1 (IntegerWidth.holds_iff.mp hm).2
  | int32 =>
    refine fetch_word_eq_ok_iff (fun _ _ => narrowOf_eq_ok_iff_number) fun m hm => ?_
    exact Int32.toInt_ofInt_of_le (IntegerWidth.holds_iff.mp hm).1 (IntegerWidth.holds_iff.mp hm).2
  | int64 =>
    refine fetch_word_eq_ok_iff (fun _ _ => integerOf_eq_ok_iff) fun m hm => ?_
    exact Int64.toInt_ofInt_of_le (IntegerWidth.holds_iff.mp hm).1 (IntegerWidth.holds_iff.mp hm).2

/--
An integer is answered by the getter of a width exactly if it is the number in a cell of the current
row and between the bounds of the width. The getters of all wider widths answer it as well.
-/
theorem getInteger_iff_number (width : IntegerWidth) (index : Nat) (t : ResultTable) (n : Int) :
    ((getInteger width index t).1 = .ok n ↔
      ∃ row cell, t.currentRow? = some row ∧ row[index]? = some cell ∧
        cell.number? = some (n : ℚ) ∧ -2 ^ (width.bits - 1) ≤ n ∧ n < 2 ^ (width.bits - 1)) ∧
    ((getInteger width index t).1 = .ok n → ∀ wider : IntegerWidth, width.bits ≤ wider.bits →
      (getInteger wider index t).1 = .ok n) := by
  constructor
  · rw [getInteger_eq_ok_iff, IntegerWidth.holds_iff]
    constructor
    · rintro ⟨cell, hcell, h⟩
      obtain ⟨⟨row, hrow, hfound⟩, -⟩ := cell_eq_ok_iff.mp hcell
      exact ⟨row, cell, hrow, hfound, h⟩
    · rintro ⟨row, cell, hrow, hfound, h⟩
      refine ⟨cell, cell_eq_ok_iff.mpr ⟨⟨row, hrow, hfound⟩, ?_⟩, h⟩
      rintro message rfl
      cases h.1
  · intro h wider hbits
    obtain ⟨cell, hcell, hnumber, hholds⟩ := getInteger_eq_ok_iff.mp h
    exact getInteger_eq_ok_iff.mpr ⟨cell, hcell, hnumber, IntegerWidth.holds_of_le hbits hholds⟩

/-- The least integer of 64 bits, as a decimal with zeros behind the point. -/
theorem getInteger_iff_number_of_least_decimal :
    let least : Decimal := ⟨true, 922337203685477580800, 2, by decide, by decide⟩
    let t : ResultTable := ⟨[], [[.value (.decimal least)]], some 0, false, 0⟩
    (getInteger .int64 0 t).1 = .ok (-9223372036854775808) ∧
      ∀ n, (getInteger .int32 0 t).1 ≠ .ok n := by
  intro least t
  have hvalue : least.value = ((-9223372036854775808 : Int) : ℚ) :=
    Decimal.toInt?_eq_some_iff.mp (by decide)
  have hread := (getInteger_iff_number .int64 0 t (-9223372036854775808)).1.mpr
    ⟨_, _, rfl, rfl, congrArg some hvalue, by decide, by decide⟩
  refine ⟨hread, fun n hnarrow => ?_⟩
  -- What eight bytes are needed for cannot be answered in four.
  have hwide := (getInteger_iff_number .int32 0 t n).2 hnarrow .int64 (by decide)
  rw [hread] at hwide
  cases hwide
  obtain ⟨_, _, _, _, _, hleast, _⟩ := (getInteger_iff_number .int32 0 t _).1.mp hnarrow
  revert hleast
  decide

end ResultTable

end RowCast

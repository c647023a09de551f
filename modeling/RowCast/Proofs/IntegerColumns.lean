import RowCast.Proofs.IntegerCells
import RowCast.Proofs.IntegerLiterals

/-!
# Columns of whole numbers

A column of integers, or of numbers without places that is mapped to one, becomes a field of a width
that holds every number the column declares. No such number is lost on the way into a record: it is
extracted from a cell that holds it in any form, and it is read from its text as a default.
-/

namespace RowCast

namespace IntegerWidth

variable {signed : Bool} {bits : Nat} {v : Int}

/-- An integer is in the range of so many bits, of which one is for the sign if there is one. -/
def InBits (signed : Bool) (bits : Nat) (v : Int) : Prop :=
  if signed then -2 ^ (bits - 1) ≤ v ∧ v < 2 ^ (bits - 1) else 0 ≤ v ∧ v < 2 ^ bits

/-- A width holds the signed integers of its bits, and the next wider one also the unsigned ones. -/
theorem holds_of_inBits {width : IntegerWidth} (hroom : signed = true ∨ width ≠ .int64)
    (h : InBits signed width.bits v) :
    (if signed then width else width.widen).holds v = true := by
  rw [holds_iff]
  cases signed with
  | true => exact h
  | false =>
    have hwide : (2 : Int) ^ width.bits ≤ 2 ^ (width.widen.bits - 1) := by
      cases width with
      | int64 => simp at hroom
      | _ => decide
    obtain ⟨hlow, hhigh⟩ : 0 ≤ v ∧ v < 2 ^ width.bits := h
    simp only [Bool.false_eq_true, if_false]
    omega

/-- Numbers of at most eighteen digits collapse to a width that holds all of them. -/
theorem exists_ofNumeric? {precision : Int32} (hprecision : precision ≤ 18)
    (hdigits : v.natAbs < 10 ^ precision.toInt.toNat) :
    ∃ width, ofNumeric? precision 0 true = some width ∧ width.holds v = true := by
  have hmost : precision.toInt ≤ 18 := Int32.le_iff_toInt_le.mp hprecision
  have hwide {width : IntegerWidth} (digits : Nat) (hle : precision.toInt.toNat ≤ digits)
      (hroom : (10 ^ digits : Nat) ≤ (2 : Int) ^ (width.bits - 1)) : width.holds v = true := by
    have hpow : 10 ^ precision.toInt.toNat ≤ 10 ^ digits := Nat.pow_le_pow_right (by decide) hle
    rw [holds_iff]
    omega
  have hcollapses : ¬(true = false ∨ (0 : Int32) ≠ 0 ∨ 19 ≤ precision) := by
    rintro (h | h | h)
    · cases h
    · exact h rfl
    · have hmore : 19 ≤ precision.toInt := Int32.le_iff_toInt_le.mp h
      omega
  rw [ofNumeric?, if_neg hcollapses]
  simp only [Int32.lt_iff_toInt_lt]
  split
  · exact ⟨.int64, rfl, hwide 18 (Int.toNat_le.mpr hmost) (by decide)⟩
  · next hnine =>
    split
    · exact ⟨.int32, rfl, hwide 9 (Int.toNat_le.mpr (Int.not_lt.mp hnine)) (by decide)⟩
    · next hfour =>
      split
      · exact ⟨.int16, rfl, hwide 4 (Int.toNat_le.mpr (Int.not_lt.mp hfour)) (by decide)⟩
      · next htwo =>
        exact ⟨.int8, rfl, hwide 2 (Int.toNat_le.mpr (Int.not_lt.mp htwo)) (by decide)⟩

end IntegerWidth

namespace Column

open IntegerWidth (InBits)

variable {column : Column} {mapNumerics : Bool} {v : Int}

/--
The integers that a column declares to hold: those of the bits of its type, with or without a sign,
or those of its digits, if it has no places and is mapped to integers.
-/
def DeclaresInteger (column : Column) (mapNumerics : Bool) (v : Int) : Prop :=
  match column.columnType with
  | .tinyInt => InBits column.signed 8 v
  | .smallInt => InBits column.signed 16 v
  | .integer => InBits column.signed 32 v
  | .bigInt => column.signed = true ∧ InBits true 64 v
  | .numeric =>
    mapNumerics = true ∧ column.scale = 0 ∧ 1 ≤ column.precision ∧ column.precision ≤ 18 ∧
      v.natAbs < 10 ^ column.precision.toInt.toNat
  | _ => False

/-- A column is read at a width that holds every integer that the column declares. -/
theorem DeclaresInteger.plan (h : column.DeclaresInteger mapNumerics v) :
    ∃ width, ColumnPlan.ofColumn? column mapNumerics = some (.integer width) ∧
      width.holds v = true := by
  unfold DeclaresInteger at h
  unfold ColumnPlan.ofColumn? ColumnPlan.of?
  split at h
  · next htype =>
    rw [htype]
    exact ⟨_, rfl, @IntegerWidth.holds_of_inBits column.signed v .int8 (.inr nofun) h⟩
  · next htype =>
    rw [htype]
    exact ⟨_, rfl, @IntegerWidth.holds_of_inBits column.signed v .int16 (.inr nofun) h⟩
  · next htype =>
    rw [htype]
    exact ⟨_, rfl, @IntegerWidth.holds_of_inBits column.signed v .int32 (.inr nofun) h⟩
  · next htype =>
    rw [htype]
    exact ⟨_, rfl, @IntegerWidth.holds_of_inBits true v .int64 (.inl rfl) h.2⟩
  · next htype =>
    obtain ⟨hmapped, hscale, -, hprecision, hdigits⟩ := h
    obtain ⟨width, hwidth, hholds⟩ := IntegerWidth.exists_ofNumeric? hprecision hdigits
    refine ⟨width, ?_, hholds⟩
    rw [htype, hmapped, hscale]
    simp only [hwidth]
  · exact h.elim

/-- Columns of whole numbers are described by the type that they have. -/
theorem DeclaresInteger.described (h : column.DeclaresInteger mapNumerics v) :
    column.described = column := by
  have htype : ColumnType.ofCode column.columnType.code = column.columnType := by
    unfold DeclaresInteger at h
    split at h
    · next htype => rw [htype]; rfl
    · next htype => rw [htype]; rfl
    · next htype => rw [htype]; rfl
    · next htype => rw [htype]; rfl
    · next htype => rw [htype]; rfl
    · exact h.elim
  rw [Column.described, htype]

end Column

/-- A text that writes an integer is not the explicit NULL. -/
theorem IntLiteral.Writes.not_null {s : List Char} {n : Int} (h : IntLiteral.Writes s n) :
    CatalogDefault.isNull (String.ofList s) = false := by
  rw [CatalogDefault.isNull, String.toList_ofList, Text.sameIgnoringCase, beq_eq_false_iff_ne]
  intro hnull
  have hletter : 'n' ∈ Text.lower s := by
    rw [hnull]
    decide
  obtain ⟨c, hc, hlower⟩ := List.mem_map.mp hletter
  rcases h.isDigit_or_sign hc with hdigit | rfl | rfl
  · rw [Text.toLower_of_isDigit hdigit] at hlower
    subst hlower
    cases hdigit
  · cases hlower
  · cases hlower

namespace Column

variable {column : Column} {mapNumerics : Bool} {width : IntegerWidth} {v : Int}

/-- The text of an integer that the width holds is the default of a field of this width. -/
theorem fieldBy_intText (hholds : width.holds v = true) :
    column.fieldBy (.integer width) (some (String.ofList (Text.intText v))) =
      .ok ⟨column.fieldName, width.fieldType, column.isOptional, some (width.toValue v)⟩ := by
  have hwrites := IntLiteral.writes_intText v
  have hread : width.fieldType.readLiteral (String.ofList (Text.intText v)) =
      .ok (width.toValue v) := by
    refine width.readLiteral_eq_ok_iff.mpr ⟨v, rfl, ?_, hholds⟩
    rwa [String.toList_ofList, Text.trim_eq_self_of_forall hwrites.not_blank]
  have hplan : (ColumnPlan.integer width).fieldType = width.fieldType := rfl
  simp [fieldBy, defaultValue, hwrites.not_null, hplan, hread, Except.map, Except.mapError]

end Column

/-- A cell holds an integer as a word of any width that has room for it or as a decimal. -/
inductive Cell.HoldsInteger (v : Int) : Cell → Prop where
  | word {width : IntegerWidth} (hroom : width.holds v = true) :
    HoldsInteger v (.value (width.toValue v))
  | decimal {d : Decimal} (hd : d.value = v) : HoldsInteger v (.value (.decimal d))

namespace Cell.HoldsInteger

variable {cell : Cell} {v : Int}

/-- The integer that a cell holds is the number in it. -/
theorem number? (h : cell.HoldsInteger v) : cell.number? = some (v : ℚ) := by
  cases h with
  | word hroom => exact Cell.number?_of_integer? (IntegerWidth.integer?_toValue hroom)
  | decimal hd => exact congrArg some hd

/-- A cell that holds an integer is not NULL. -/
theorem ne_null (h : cell.HoldsInteger v) : cell ≠ .null := by
  intro hnull
  cases h with
  | @word width hroom => cases width <;> cases hnull
  | decimal hd => cases hnull

end Cell.HoldsInteger

namespace ResultTable

/--
An integer that a column declares is extracted from every cell that holds it, as a value of the type
of the field that the column becomes. Its text is read as the same value where it is the default.
-/
theorem extract_declared_integer {column : Column} {settings : Settings} {v : Int}
    (hdeclared : column.DeclaresInteger settings.mapNumerics v) :
    ∃ width : IntegerWidth, (width.toValue v).integer? = some v ∧
      (column.toField none settings.mapNumerics).1 =
        .ok (some ⟨column.fieldName, width.fieldType, column.isOptional, none⟩) ∧
      (column.toField (some (String.ofList (Text.intText v))) settings.mapNumerics).1 =
        .ok (some ⟨column.fieldName, width.fieldType, column.isOptional,
          some (width.toValue v)⟩) ∧
      ∀ (t : ResultTable) (index : Nat) (cell : Cell), t.columns[index]? = some column →
        t.cell index = .ok cell → cell.HoldsInteger v →
        (rowSource.extract index column.columnType settings t).1 =
          .ok (some (width.toValue v)) := by
  obtain ⟨width, hplan, hholds⟩ := hdeclared.plan
  refine ⟨width, IntegerWidth.integer?_toValue hholds, ?_, ?_, ?_⟩
  · rw [Column.toField, hplan]
    rfl
  · rw [Column.toField, hplan]
    simp only [Column.fieldBy_intText hholds]
    rfl
  · intro t index cell hcolumn hcell hv
    have hwidest : width.bits ≤ IntegerWidth.int64.bits := by cases width <;> decide
    have hread : integerOf cell = .ok v :=
      integerOf_eq_ok_iff.mpr ⟨hv.number?, IntegerWidth.holds_of_le hwidest hholds⟩
    have hextract := @extract_table t settings index column hcolumn
    rw [hdeclared.described] at hextract
    rw [hextract, hplan, hcell]
    simp [ColumnPlan.interpret_integer_of_holds _ hread hholds, hv.ne_null, Except.map]

/-- The greatest number of an unsigned column, as a decimal with zeros behind the point. -/
theorem extract_declared_integer_of_unsigned_decimal :
    let column : Column := ⟨"n", "", .integer, .nullable, false, 0, 0⟩
    let greatest : Decimal := ⟨false, 429496729500, 2, by decide, by decide⟩
    let t : ResultTable := ⟨[column], [[.value (.decimal greatest)]], some 0, false, 0⟩
    (column.toField (some "4294967295") false).1 =
        .ok (some ⟨"n", .int64, true, some (.int64 4294967295)⟩) ∧
      (rowSource.extract 0 .integer .standard t).1 = .ok (some (.int64 4294967295)) := by
  intro column greatest t
  have hdeclared : column.DeclaresInteger Settings.standard.mapNumerics 4294967295 := by
    constructor <;> decide
  obtain ⟨width, -, hplain, hdefault, hextract⟩ := extract_declared_integer hdeclared
  have hwidth : width = .int64 := by
    cases width with
    | int64 => rfl
    | _ => cases hplain
  subst hwidth
  have hvalue : greatest.value = ((4294967295 : Int) : ℚ) :=
    Decimal.toInt?_eq_some_iff.mp (by decide)
  have htext : String.ofList (Text.intText 4294967295) = "4294967295" := by decide
  rw [htext] at hdefault
  exact ⟨hdefault, hextract t 0 _ rfl rfl (.decimal hvalue)⟩

end ResultTable

end RowCast

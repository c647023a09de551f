import RowCast.Proofs.IntegerLiterals
import RowCast.Proofs.Rounding
import RowCast.Proofs.StoredSchemas

/-!
# Defaults and values of decimal columns

The default of a decimal column is made of an integer literal, and its values are cells brought to
the scale of the column. Both take the scale into the range from 0 to 28, each in its own way, and
come to the same places: a cell that holds the same number as the default is extracted as the very
same decimal.
-/

namespace RowCast

/-- What is read as a 64-bit integer is one. -/
theorem Literal.toInt_ofInt_of_readInt {s : List Char} {n : Int} (h : readInt .int64 s = .ok n) :
    (Int64.ofInt n).toInt = n := by
  obtain ⟨-, hholds⟩ := readInt_eq_ok_iff.mp h
  obtain ⟨hleast, hgreatest⟩ := IntegerWidth.holds_iff.mp hholds
  exact Int64.toInt_ofInt_of_le hleast hgreatest

namespace Column

variable {column : Column} {mapNumerics : Bool}

/-- A column of exact decimals: declared as one, or numeric and not collapsed to an integer. -/
def HoldsDecimals (column : Column) (mapNumerics : Bool) : Prop :=
  column.columnType = .decimal ∨ column.columnType = .numeric ∧
    IntegerWidth.ofNumeric? column.precision column.scale mapNumerics = none

/-- Columns of decimals are read at their declared scale. -/
theorem HoldsDecimals.plan (h : column.HoldsDecimals mapNumerics) :
    ColumnPlan.ofColumn? column mapNumerics = some (.decimal (declaredScale column.scale)) := by
  rcases h with htype | ⟨htype, hwidth⟩
  · simp [ColumnPlan.ofColumn?, ColumnPlan.of?, htype]
  · simp [ColumnPlan.ofColumn?, ColumnPlan.of?, htype, hwidth]

/-- Columns of decimals are described by the type that they have. -/
theorem HoldsDecimals.described (h : column.HoldsDecimals mapNumerics) :
    column.described = column := by
  have htype : ColumnType.ofCode column.columnType.code = column.columnType := by
    rcases h with htype | ⟨htype, -⟩ <;> rw [htype] <;> rfl
  rw [Column.described, htype]

/-- A decimal default of a column of decimals is what the literal is read as at its scale. -/
theorem HoldsDecimals.readDecimal {literal : String} {field : RecordField} {d : Decimal}
    (h : column.HoldsDecimals mapNumerics)
    (hfield : (column.toField (some literal) mapNumerics).1 = .ok (some field))
    (hdefault : field.default? = some (.decimal d)) :
    field.type = .decimal (declaredScale column.scale) ∧
      Literal.readDecimal (declaredScale column.scale) literal.toList = .ok d := by
  obtain ⟨-, hnone⟩ | ⟨plan, field', hplan, hsome, hmade⟩ := toField_ok hfield
  · cases hnone
  cases hsome
  cases h.plan.symm.trans hplan
  refine ⟨(fieldBy_ok hmade).2.1, ?_⟩
  obtain ⟨value, hvalue, rfl⟩ := Except.exists_of_map_ok hmade
  cases hdefault
  unfold defaultValue at hvalue
  split at hvalue
  · cases hvalue
  · obtain ⟨d', hread, hd'⟩ := Except.exists_of_map_ok (Except.mapError_eq_ok_iff.mp hvalue)
    cases hd'
    exact hread

end Column

namespace ResultTable

/--
A literal that is read as a decimal default is the exact digits of it, and whatever cell of the
column holds the same number is extracted as the same decimal, with the same places.
-/
theorem extract_eq_default {t : ResultTable} {index : Nat} {column : Column} {settings : Settings}
    {literal : String} {field : RecordField} {cell : Cell} {c d : Decimal}
    (hcolumn : t.columns[index]? = some column)
    (hdecimals : column.HoldsDecimals settings.mapNumerics)
    (hfield : (column.toField (some literal) settings.mapNumerics).1 = .ok (some field))
    (hdefault : field.default? = some (.decimal d))
    (hcell : t.cell index = .ok cell) (hc : cell.decimal? = some c)
    (hvalue : c.value = d.value) (hzero : c.isNegativeZero = false) :
    (∃ s n, field.type = .decimal s ∧ Literal.readInt .int64 literal.toList = .ok n ∧
        d.value = n * 10 ^ (-s.toInt)) ∧
      (rowSource.extract index column.columnType settings t).1 = .ok (some (.decimal d)) := by
  obtain ⟨htype, hread⟩ := hdecimals.readDecimal hfield hdefault
  obtain ⟨n, hdigits, hscaled⟩ := Literal.exists_of_readDecimal hread
  obtain ⟨hnumber, hscale, hsign, -⟩ := Decimal.ofScaled?_eq_some_iff.mp hscaled
  rw [Decimal.scaledNumber, Literal.toInt_ofInt_of_readInt hdigits] at hnumber
  refine ⟨⟨declaredScale column.scale, n, htype, hdigits, hnumber⟩, ?_⟩
  have hrescaled : c.rescaleTo (declaredScale column.scale) = d := by
    simp only [Decimal.rescaleTo, ← hscale]
    exact Decimal.rescale_eq_of_value hvalue hzero hsign
  have hnull : cell ≠ .null := by
    rintro rfl
    cases hc
  have hextract := @extract_table t settings index column hcolumn
  rw [hdecimals.described] at hextract
  rw [hextract, hdecimals.plan, hcell]
  simp [ColumnPlan.interpret, decimalOf_of_decimal? hc, hrescaled, hnull, Except.map,
    Value.ofOption]

/-- A cell with more places than its column, and the default of the column, come out alike. -/
theorem extract_eq_default_of_longer_cell :
    let column : Column := ⟨"price", "", .numeric, .nullable, true, 10, 2⟩
    let default : Decimal := ⟨true, 1250, 2, by decide, by decide⟩
    let cell : Decimal := ⟨true, 125000, 4, by decide, by decide⟩
    let field : RecordField := ⟨"price", .decimal 2, true, some (.decimal default)⟩
    let t : ResultTable := ⟨[column], [[.value (.decimal cell)]], some 0, false, 0⟩
    let settings : Settings := { Settings.standard with mapNumerics := true }
    (column.toField (some "-1250") true).1 = .ok (some field) ∧
      (rowSource.extract 0 .numeric settings t).1 = .ok (some (.decimal default)) := by
  intro column default cell field t settings
  have hdecimals : column.HoldsDecimals settings.mapNumerics := .inr ⟨rfl, rfl⟩
  have hfield : (column.toField (some "-1250") settings.mapNumerics).1 = .ok (some field) := rfl
  have hcell : t.cell 0 = .ok (.value (.decimal cell)) := rfl
  have hvalue : cell.value = default.value := Decimal.sameValue_iff.mp rfl
  exact ⟨hfield, (extract_eq_default rfl hdecimals hfield rfl hcell rfl hvalue rfl).2⟩

end ResultTable

end RowCast

import RowCast.Proofs.Defaults
import RowCast.Proofs.RecordObjects
import RowCast.Proofs.Rows

/-!
# Values and the defaults behind them

What a record has under a name is a value that was put there, or else the default of the field.
Values are validated when they are put. Defaults are read from the catalog for the type of the
field, so they have its type, with one exception: an explicit NULL in the catalog is the default of
the field also where the field is required.
-/

namespace RowCast

/-- Only the literal of NULL gives NULL as a default. -/
theorem FieldType.default?_eq_null_iff {type : FieldType} {literal? : Option String} :
    type.default? literal? = some .null ↔
      ∃ literal, literal? = some literal ∧ CatalogDefault.isNull literal = true := by
  cases literal? with
  | none => simp [default?]
  | some literal =>
    cases hnull : CatalogDefault.isNull literal with
    | true => simp [default?, hnull]
    | false =>
      cases hread : type.readLiteral literal with
      | error cause => simp [default?, hnull, hread, Except.toOption]
      | ok v =>
        have hne : v ≠ .null := by
          rintro rfl
          exact absurd (isNull_of_accepts (accepts_of_readLiteral hread)) (by decide)
        simp [default?, hnull, hread, Except.toOption, hne]

/-- A default that a literal gives is NULL or has the type of the field. -/
theorem FieldType.accepts_of_default? {type : FieldType} {literal? : Option String} {v : Value}
    (h : type.default? literal? = some v) : v = .null ∨ type.accepts v = true := by
  obtain rfl | ⟨literal, hread⟩ := gives_of_default? h
  · exact .inl rfl
  · exact .inr (accepts_of_readLiteral hread)

/-- The put that a column makes, if a value was extracted from it. -/
def ColumnOutcome.puts : ColumnOutcome → List (String × Value)
  | .extracted name value => [(name, value)]
  | .unreadable _ | .unsupported | .failed .. => []

namespace Record

/-- Columns are stored by the puts that they make, one after the other. -/
theorem storeAll_eq_tryPuts (record : Record) (outcomes : List (Nat × ColumnOutcome)) :
    record.storeAll outcomes = record.tryPuts (outcomes.flatMap fun entry => entry.2.puts) := by
  induction outcomes generalizing record with
  | nil => rfl
  | cons entry rest ih =>
    rw [storeAll_cons, ih, List.flatMap_cons, tryPuts, tryPuts, List.foldl_append]
    congr 1
    cases entry.2 with
    | extracted name value =>
      change _ = record.tryPut name value
      unfold store tryPut
      cases hput : record.put name value <;> simp [hput]
    | unreadable | unsupported | failed => rfl

/-- The records of a schema that rows and puts lead to. A put that is refused changes nothing. -/
inductive Reached (schema : Schema) : Record → Prop where
  | empty : Reached schema (.empty schema)
  | row {σ β χ ξ : Type} {row : RowSource σ β χ ξ} {settings : Settings} {s : σ} {record : Record}
    (h : (row.toRecord schema settings s).1 = .ok record) : Reached schema record
  | put {record filled : Record} {name : String} {value : Value} (hreached : Reached schema record)
    (h : record.put name value = .ok filled) : Reached schema filled

/-- Every record that is reached is filled by puts, those that its columns make included. -/
theorem Reached.exists_puts {schema : Schema} {record : Record} (h : Reached schema record) :
    ∃ puts, record = (Record.empty schema).tryPuts puts := by
  induction h with
  | empty => exact ⟨[], rfl⟩
  | @row σ β χ ξ row settings s record h =>
    cases hcount : (row.columnCount s).1 with
    | error e =>
      rw [RowSource.toRecord_of_count_error hcount] at h
      cases h
    | ok count =>
      rw [RowSource.toRecord_answer hcount, storeAll_eq_tryPuts] at h
      cases h
      exact ⟨_, rfl⟩
  | @put record filled name value _ h ih =>
    obtain ⟨puts, rfl⟩ := ih
    refine ⟨puts ++ [(name, value)], ?_⟩
    rw [tryPuts, List.foldl_append]
    change filled = ((Record.empty schema).tryPuts puts).tryPut name value
    rw [tryPut, h]

/-- Every record that is reached is a sound record of its schema. -/
theorem Reached.sound {schema : Schema} {record : Record} (h : Reached schema record) :
    record.Sound ∧ record.schema = schema := by
  obtain ⟨puts, rfl⟩ := h.exists_puts
  exact ⟨(sound_empty schema).tryPuts puts, tryPuts_schema ..⟩

/--
What a record of a built schema answers for a name, its own value or the default of the field, is
validated by the first field of the name. There is one exception: where the catalog gives the
explicit NULL to a column that is not nullable, its field answers NULL as long as it is not set.
-/
theorem validate_getOrDefault? {σ : Type} {metadata : Metadata σ} {table : String}
    {defaults : Defaults} {settings : Settings} {s : σ} {schema : Schema}
    (hbuilt : (metadata.toSchema table defaults settings s).1 = .ok schema) {record : Record}
    (hreached : Reached schema record) {name : String} {v : Value}
    (h : record.getOrDefault? name = some v) :
    ∃ field, schema.field? name = some field ∧
      (field.validate v = .ok () ∨
        (v = .null ∧ field.optional = false ∧ record.get? name = none ∧
          ∃ columns column literal, (metadata.snapshot s).1 = .ok columns ∧ column ∈ columns ∧
            column.fieldName = name ∧ column.isOptional = false ∧
            defaults.literal? column = some literal ∧ CatalogDefault.isNull literal = true)) := by
  obtain ⟨hsound, rfl⟩ := hreached.sound
  unfold getOrDefault? at h
  cases hget : record.get? name with
  | some w =>
    rw [hget] at h
    cases h
    obtain ⟨field, hfield, hvalid⟩ := hsound.exists_field hget
    exact ⟨field, hfield, .inl hvalid⟩
  | none =>
    rw [hget, Option.none_or] at h
    obtain ⟨field, hfield, hdefault⟩ := Option.bind_eq_some_iff.mp h
    have hmem : field ∈ record.schema.fields := List.mem_of_find?_eq_some hfield
    have hname : field.name = name := by simpa using List.find?_some hfield
    refine ⟨field, hfield, ?_⟩
    obtain ⟨columns, hread, hfields⟩ := Metadata.fields_of_toSchema hbuilt
    rw [hfields] at hmem
    obtain ⟨column, hcolumn, hmade⟩ := List.mem_filterMap.mp hmem
    obtain ⟨plan, -, rfl⟩ := Option.map_eq_some_iff.mp hmade
    rcases FieldType.accepts_of_default? hdefault with rfl | haccepts
    · cases hoptional : column.isOptional with
      | true => exact .inl (RecordField.validate_ok_iff.mpr (.inl ⟨rfl, hoptional⟩))
      | false =>
        obtain ⟨literal, hliteral, hnull⟩ := FieldType.default?_eq_null_iff.mp hdefault
        exact .inr ⟨rfl, hoptional, rfl, columns, column, literal, hread, hcolumn, hname, hoptional,
          hliteral, hnull⟩
    · exact .inl (RecordField.validate_ok_iff.mpr (.inr haccepts))

/-- A decimal default of a required field stands in for the value that a row has not given. -/
theorem validate_getOrDefault?_of_failing_cell :
    let columns : List Column := [⟨"price", "cost", .decimal, .noNulls, true, 9, 2⟩]
    let table : ResultTable := ⟨columns, [[.failing "gone"]], some 0, false, 0⟩
    let price : Value := .decimal ⟨true, 5, 2, by decide, by decide⟩
    ∃ schema record field,
      (ResultTable.metadata.toSchema "t" (fun _ => some "-5") .standard table).1 = .ok schema ∧
      (ResultTable.rowSource.toRecord schema .standard table).1 = .ok record ∧
      record.getOrDefault? "cost" = some price ∧ schema.field? "cost" = some field ∧
      field.optional = false ∧ field.validate price = .ok () := by
  intro columns table price
  let schema : Schema := ⟨"t", [⟨"cost", .decimal 2, false, some price⟩]⟩
  have hbuilt : (ResultTable.metadata.toSchema "t" (fun _ => some "-5") .standard table).1 =
      .ok schema := rfl
  have hrow : (ResultTable.rowSource.toRecord schema .standard table).1 = .ok (empty schema) := rfl
  have hdefault : (empty schema).getOrDefault? "cost" = some price := rfl
  obtain ⟨field, hfield, hvalid⟩ := validate_getOrDefault? hbuilt (.row hrow) hdefault
  refine ⟨schema, empty schema, field, hbuilt, hrow, hdefault, hfield, ?_, ?_⟩
  · cases hfield
    rfl
  · exact hvalid.resolve_right fun h => nomatch h.1

/-- The explicit NULL of the catalog is answered for a required field, which refuses it. -/
theorem getOrDefault?_null_for_required_field :
    let columns : List Column := [⟨"n", "", .integer, .noNulls, true, 10, 0⟩]
    let table : ResultTable := ⟨columns, [[.failing "gone"]], some 0, false, 0⟩
    ∃ schema record field e,
      (ResultTable.metadata.toSchema "t" (fun _ => some "null") .standard table).1 = .ok schema ∧
      (ResultTable.rowSource.toRecord schema .standard table).1 = .ok record ∧
      record.getOrDefault? "n" = some .null ∧ schema.field? "n" = some field ∧
      field.optional = false ∧ field.validate .null = .error e := by
  intro columns table
  exact ⟨⟨"t", [⟨"n", .int32, false, some .null⟩]⟩, _, _, _, rfl, rfl, rfl, rfl, rfl, rfl⟩

end Record

end RowCast

import RowCast.Proofs.Tables

/-!
# Schemas and rows agree on every column

A schema is built from metadata once; each row looks its columns up anew. As long as both present
the same columns, a column that is left out of the schema is never extracted, and what is extracted
of any other column is NULL or a value for the field of that column. Only NULL can then be refused.

The row may answer its reads and the question for NULL in any way, failures included.
-/

namespace RowCast

/-- Two logical types are equal, but for the scale if they are types of decimals. -/
def FieldType.SameButScale (a b : FieldType) : Prop :=
  a = b ∨ ∃ s t, a = .decimal s ∧ b = .decimal t

/-- A value that a type accepts has this type, but for the scale of a decimal. -/
theorem FieldType.sameButScale_of_accepts {type : FieldType} {value : Value}
    (h : type.accepts value = true) :
    ∃ own, value.fieldType? = some own ∧ own.SameButScale type := by
  cases type <;> cases value <;>
    simp_all [FieldType.accepts, Value.fieldType?, FieldType.SameButScale]

namespace RowSource

variable {σ β χ ξ : Type} {row : RowSource σ β χ ξ} {inv : σ → Prop} {columns : List Column}
  {settings : Settings} {index : Nat} {column : Column}

/-- Extraction keeps to the states in which a row presents its columns. -/
theorem Presents.extract (h : row.Presents inv columns) (hcolumn : columns[index]? = some column)
    {s : σ} (hs : inv s) : inv (row.extract index column.columnType settings s).2.2 := by
  obtain ⟨hplan, hkept⟩ := (h.describes hcolumn).plan settings.mapNumerics s hs
  cases hfound : ColumnPlan.ofColumn? column settings.mapNumerics with
  | none =>
    rw [hfound] at hplan
    rw [extract_of_no_plan hplan]
    exact hkept
  | some plan =>
    rw [hfound] at hplan
    rw [extract_of_plan hplan]
    have hread := h.read plan index settings.maxLobLength hkept
    split
    · next heq => rwa [heq] at hread
    · next heq =>
      rw [heq] at hread
      exact h.wasNull hread

/-- Reading a column keeps to the states in which a row presents its columns. -/
theorem Presents.readColumn (h : row.Presents inv columns)
    (hcolumn : columns[index]? = some column) {s : σ} (hs : inv s) :
    inv (row.readColumn settings index s).2.2 := by
  obtain ⟨hidentify, hkept⟩ := (h.describes hcolumn).identify s hs
  unfold RowSource.readColumn
  split
  · next heq =>
    rw [heq] at hidentify
    cases hidentify
  · next columnType field t heq =>
    rw [heq] at hidentify hkept
    cases hidentify
    have hextract : inv (row.extract index column.columnType settings t).2.2 :=
      h.extract hcolumn hkept
    split <;> simp_all

/-- What becomes of a column is what reading it gives in a state in which the row presents it. -/
theorem Presents.mem_outcomes (h : row.Presents inv columns) {indices : List Nat}
    (hindices : ∀ i ∈ indices, i < columns.length) {s : σ} (hs : inv s) {outcome : ColumnOutcome}
    (hmem : (index, outcome) ∈ row.outcomes settings indices s) :
    ∃ column, columns[index]? = some column ∧
      ∃ t, inv t ∧ outcome = (row.readColumn settings index t).1 := by
  induction indices generalizing s with
  | nil => cases hmem
  | cons first rest ih =>
    have hfirst : first < columns.length := hindices first List.mem_cons_self
    rcases List.mem_cons.mp hmem with heq | hmem
    · cases heq
      exact ⟨_, List.getElem?_eq_getElem hfirst, s, hs, rfl⟩
    · exact ih (fun i hi => hindices i (List.mem_cons_of_mem _ hi))
        (h.readColumn (List.getElem?_eq_getElem hfirst) hs) hmem

/-- A value that a column offers was extracted from it, and goes by the column's field name. -/
theorem Presents.extracted (h : row.Presents inv columns) (hcolumn : columns[index]? = some column)
    {s : σ} (hs : inv s) {name : String} {value : Value}
    (hread : (row.readColumn settings index s).1 = .extracted name value) :
    name = column.fieldName ∧
      ∃ t, inv t ∧ (row.extract index column.columnType settings t).1 = .ok (some value) := by
  obtain ⟨hidentify, hkept⟩ := (h.describes hcolumn).identify s hs
  unfold RowSource.readColumn at hread
  split at hread
  · next heq =>
    rw [heq] at hidentify
    cases hidentify
  · next columnType field t heq =>
    rw [heq] at hidentify hkept
    cases hidentify
    split at hread <;> cases hread
    next hextract => exact ⟨rfl, t, hkept, congrArg Prod.fst hextract⟩

end RowSource

/-- A field refuses what its type accepts or NULL only if it is NULL that the field may not be. -/
theorem RecordField.validate_error {field : RecordField} {value : Value} {e : Error}
    (haccepts : value = .null ∨ field.type.accepts value = true)
    (h : field.validate value = .error e) :
    value = .null ∧ field.optional = false ∧
      e = .fieldMismatch field.name "null value for required field" := by
  unfold RecordField.validate at h
  rcases haccepts with rfl | haccepts
  · cases hoptional : field.optional with
    | true => simp [Value.isNull, hoptional] at h
    | false =>
      simp only [Value.isNull, hoptional, if_true] at h
      cases h
      exact ⟨rfl, rfl, rfl⟩
  · simp [FieldType.isNull_of_accepts haccepts, haccepts] at h

/-- A record refuses a value only for a reason that the first field of the name has. -/
theorem Record.put_error {record : Record} {name : String} {value : Value} {field : RecordField}
    (hfield : record.schema.field? name = some field) {e : Error}
    (h : record.put name value = .error e) : field.validate value = .error e := by
  have hindex := hfield
  rw [Schema.field?_eq] at hindex
  obtain ⟨index, hindex, -⟩ := Option.bind_eq_some_iff.mp hindex
  simp only [Record.put, hfield, hindex] at h
  split at h
  · cases h
  · next hvalid =>
    cases h
    exact hvalid

namespace RowSource

variable {σ τ β χ ξ : Type} {metadata : Metadata σ} {row : RowSource τ β χ ξ} {inv : τ → Prop}
  {columns : List Column} {table : String} {defaults : Defaults} {settings : Settings}

/-- A value that is extracted from a column is NULL or one for the field of the column. -/
theorem Presents.field_of_extract (h : row.Presents inv columns) {index : Nat} {column : Column}
    (hcolumn : columns[index]? = some column)
    (hbuilt : (column.toFieldIn table defaults settings).1 =
      .ok (column.fieldIn? table defaults settings))
    {t : τ} (ht : inv t) {value : Value}
    (hvalue : (row.extract index column.columnType settings t).1 = .ok (some value)) :
    ∃ field, column.fieldIn? table defaults settings = some field ∧
      field.name = column.fieldName ∧ (value = .null ∨ field.type.accepts value = true) := by
  obtain ⟨plan, hplan, hadmits⟩ :=
    admits_of_extract ((h.describes hcolumn).plan settings.mapNumerics t ht).1 hvalue
  obtain ⟨field, hfield, hname, htype, -⟩ := Column.fieldIn?_of_plan hbuilt hplan
  refine ⟨field, hfield, hname, ?_⟩
  rw [htype]
  exact hadmits

/-- With distinct field names only NULL is refused of what was extracted, for a required field. -/
theorem Presents.put_error (h : row.Presents inv columns) {schema : Schema}
    (hfields : schema.fields = columns.filterMap (Column.fieldIn? table defaults settings))
    (hbuilt : ∀ column ∈ columns, (column.toFieldIn table defaults settings).1 =
      .ok (column.fieldIn? table defaults settings))
    (hnames : schema.fieldNames.Nodup) {t : τ} (ht : inv t) {index : Nat} {name : String}
    {value : Value}
    (hmem : (index, .extracted name value) ∈
      row.outcomes settings (List.range columns.length) t)
    {record : Record} (hrecord : record.schema = schema) {e : Error}
    (hput : record.put name value = .error e) :
    value = .null ∧ e = .fieldMismatch name "null value for required field" ∧
      ∃ field ∈ schema.fields, field.name = name ∧ field.optional = false := by
  obtain ⟨column, hcolumn, u, hu, hread⟩ :=
    h.mem_outcomes (fun i hi => List.mem_range.mp hi) ht hmem
  obtain ⟨rfl, v, hv, hvalue⟩ := h.extracted hcolumn hu hread.symm
  have hlisted : column ∈ columns := List.mem_of_getElem? hcolumn
  obtain ⟨field, hfield, hname, haccepts⟩ :=
    h.field_of_extract hcolumn (hbuilt column hlisted) hv hvalue
  have hmade : field ∈ schema.fields := by
    rw [hfields]
    exact List.mem_filterMap.mpr ⟨column, hlisted, hfield⟩
  have hfirst : record.schema.field? column.fieldName = some field := by
    rw [hrecord, ← hname]
    exact Schema.field?_of_mem hnames hmade
  obtain ⟨hnull, hrequired, hcause⟩ :=
    RecordField.validate_error haccepts (Record.put_error hfirst hput)
  rw [hname] at hcause
  exact ⟨hnull, hcause, field, hmade, hname, hrequired⟩

/--
Schemas and rows agree on every column. A column is left out of the schema exactly when extraction
answers nothing for it. A value other than NULL that is extracted is one for the field of its
column, by its type and by its name. So with distinct field names only NULL is ever refused, and
only by a field that may not be null.
-/
theorem extraction_agrees_with_schema {invM : σ → Prop} (hmetadata : metadata.Presents invM columns)
    (hrow : row.Presents inv columns) (table : String) (defaults : Defaults) (settings : Settings)
    {s : σ} (hs : invM s) {schema : Schema}
    (hschema : (metadata.toSchema table defaults settings s).1 = .ok schema) :
    (schema.fields = columns.filterMap (Column.fieldIn? table defaults settings) ∧
      ∀ column ∈ columns, (column.toFieldIn table defaults settings).1 =
        .ok (column.fieldIn? table defaults settings)) ∧
    (∀ index column, columns[index]? = some column → ∀ t, inv t →
      ((row.extract index column.columnType settings t).1 = .ok none ↔
        column.fieldIn? table defaults settings = none) ∧
      ∀ value, (row.extract index column.columnType settings t).1 = .ok (some value) →
        value ≠ .null →
          ∃ field own, column.fieldIn? table defaults settings = some field ∧
            field.type.accepts value = true ∧
            value.fieldType? = some own ∧ own.SameButScale field.type ∧
            (row.identify index t).1 = .ok (column.columnType, field.name)) ∧
    (schema.fieldNames.Nodup → ∀ t, inv t →
      (∀ index name value,
        (index, .extracted name value) ∈
          row.outcomes settings (List.range columns.length) (row.columnCount t).2 →
        ∀ record : Record, record.schema = schema → ∀ e, record.put name value = .error e →
          value = .null ∧ e = .fieldMismatch name "null value for required field" ∧
            ∃ field ∈ schema.fields, field.name = name ∧ field.optional = false) ∧
      ∀ name e, .rejectedValue name e ∈ (row.toRecord schema settings t).2.1 →
        e = .fieldMismatch name "null value for required field" ∧
          ∃ index, (index, .extracted name .null) ∈
            row.outcomes settings (List.range columns.length) (row.columnCount t).2) := by
  obtain ⟨dropped, hdropped⟩ := Metadata.schemaAndDropped_of_toSchema hschema
  obtain ⟨hfields, hbuilt⟩ := hmetadata.schema hs hdropped
  refine ⟨⟨hfields, hbuilt⟩, fun index column hcolumn t ht => ⟨?_, ?_⟩, fun hnames t ht => ?_⟩
  · have hplan := ((hrow.describes hcolumn).plan settings.mapNumerics t ht).1
    rw [extract_eq_none_iff hplan,
      Column.fieldIn?_eq_none_iff (hbuilt column (List.mem_of_getElem? hcolumn))]
  · intro value hvalue hnull
    obtain ⟨field, hfield, hname, haccepts⟩ :=
      hrow.field_of_extract hcolumn (hbuilt column (List.mem_of_getElem? hcolumn)) ht hvalue
    have haccepts := haccepts.resolve_left hnull
    obtain ⟨own, hown, hsame⟩ := FieldType.sameButScale_of_accepts haccepts
    refine ⟨field, own, hfield, haccepts, hown, hsame, ?_⟩
    rw [hname]
    exact ((hrow.describes hcolumn).identify t ht).1
  · obtain ⟨hcount, hkept⟩ := hrow.count t ht
    have hrefused {index : Nat} {name : String} {value : Value}
        (hmem : (index, .extracted name value) ∈
          row.outcomes settings (List.range columns.length) (row.columnCount t).2)
        {record : Record} (hrecord : record.schema = schema) {e : Error}
        (hput : record.put name value = .error e) :=
      hrow.put_error hfields hbuilt hnames hkept hmem hrecord hput
    refine ⟨fun _ _ _ hmem _ hrecord _ hput => hrefused hmem hrecord hput, fun name e hevent => ?_⟩
    rw [toRecord_of_count hcount] at hevent
    -- Reads report failed releases only, so a refused value is reported where it was stored.
    rcases mem_storeColumns_log (row.readColumn_log settings) hevent with
      ⟨cause, hcause⟩ | ⟨before, entry, after, houtcomes, hlost⟩
    · cases hcause
    · obtain ⟨value, hvalue, hput⟩ := Record.rejected_of_mem_store hlost
      have hmem : (entry.1, .extracted name value) ∈
          row.outcomes settings (List.range columns.length) (row.columnCount t).2 := by
        rw [houtcomes, ← hvalue]
        simp
      obtain ⟨rfl, hcause, -⟩ := hrefused hmem (by simp [Record.empty]) hput
      exact ⟨hcause, entry.1, hmem⟩

/--
A table with a required integer, a column of an unsupported type and a labelled text: the text is
extracted for the field of its label, and a missing integer is the only value that is refused.
-/
theorem extraction_agrees_with_schema_of_table :
    let columns : List Column :=
      [⟨"id", "", .integer, .noNulls, true, 0, 0⟩, ⟨"tags", "", .array, .unknown, true, 0, 0⟩,
        ⟨"note", "remark", .varChar, .unknown, true, 0, 0⟩]
    let table : ResultTable :=
      ⟨columns, [[.null, .null, .value (.string "a")]], some 0, false, 0⟩
    let schema : Schema := ⟨"t", [⟨"id", .int32, false, none⟩, ⟨"remark", .string, true, none⟩]⟩
    (ResultTable.metadata.toSchema "t" (fun _ => none) .standard table).1 = .ok schema ∧
      (ResultTable.rowSource.extract 2 .varChar .standard table).1 = .ok (some (.string "a")) ∧
      schema.fieldNames.Nodup ∧
      (∃ field, (⟨"note", "remark", .varChar, .unknown, true, 0, 0⟩ : Column).fieldIn? "t"
          (fun _ => none) .standard = some field ∧ field.type.accepts (.string "a") = true) ∧
      ∀ name e, .rejectedValue name e ∈
          (ResultTable.rowSource.toRecord schema .standard table).2.1 →
        e = .fieldMismatch name "null value for required field" := by
  intro columns table schema
  have hpresents : ResultTable.rowSource.Presents (fun t => t.columns = columns) columns :=
    ResultTable.rowSource_presents columns
  have hschema : (ResultTable.metadata.toSchema "t" (fun _ => none) .standard table).1 =
      .ok schema := by decide
  have hextract : (ResultTable.rowSource.extract 2 .varChar .standard table).1 =
      .ok (some (.string "a")) := by decide
  obtain ⟨-, hcolumns, hrefused⟩ := extraction_agrees_with_schema hpresents.toPresents hpresents
    "t" (fun _ => none) .standard rfl hschema
  obtain ⟨field, own, hfield, haccepts, -⟩ :=
    (hcolumns 2 _ rfl table rfl).2 (.string "a") hextract (by decide)
  exact ⟨hschema, hextract, by decide, ⟨field, hfield, haccepts⟩, fun name e hevent =>
    ((hrefused (by decide) table rfl).2 name e hevent).1⟩

end RowSource

end RowCast

import RowCast.Proofs.Description
import RowCast.Source.Table

/-!
# Defaults and the two policies for them

The default of a field is NULL, a value of the type of the field, or missing. The policies differ in
one thing only: where the literal of a column is no value of its type, one goes on without a default
and the other gives the schema up, at the first such column. Whatever both build is the same.
-/

namespace RowCast

/-- What a literal is read as has the type that it is read for. -/
theorem FieldType.accepts_of_readLiteral {type : FieldType} {literal : String} {v : Value}
    (h : type.readLiteral literal = .ok v) : type.accepts v = true := by
  cases type with
  | bool | string | bytes =>
    cases h
    rfl
  | _ =>
    obtain ⟨_, -, rfl⟩ := Except.exists_of_map_ok h
    rfl

/-- The default that a literal gives to fields of a type: NULL, a value of the type, or none. -/
def FieldType.default? (type : FieldType) (literal? : Option String) : Option Value :=
  literal?.bind fun literal =>
    if CatalogDefault.isNull literal then some .null else (type.readLiteral literal).toOption

/-- A default that a literal may give to fields of a type: NULL, or what the literal is read as. -/
def FieldType.Gives (type : FieldType) (v : Value) : Prop :=
  v = .null ∨ ∃ literal, type.readLiteral literal = .ok v

/-- Literals give no other defaults than they may. -/
theorem FieldType.gives_of_default? {type : FieldType} {literal? : Option String} {v : Value}
    (h : type.default? literal? = some v) : type.Gives v := by
  obtain ⟨literal, -, hgiven⟩ := Option.bind_eq_some_iff.mp h
  split at hgiven
  · cases hgiven
    exact .inl rfl
  · cases hread : type.readLiteral literal with
    | error cause =>
      rw [hread] at hgiven
      cases hgiven
    | ok w =>
      rw [hread] at hgiven
      cases hgiven
      exact .inr ⟨literal, hread⟩

/-- A literal, if there is one, means NULL or can be read as a value of the type. -/
def FieldType.Reads (type : FieldType) (literal? : Option String) : Prop :=
  ∀ literal ∈ literal?, CatalogDefault.isNull literal = true ∨ ∃ v, type.readLiteral literal = .ok v

/-- A literal that cannot be read is one other than NULL that reading refuses. -/
theorem FieldType.exists_of_not_reads {type : FieldType} {literal? : Option String}
    (h : ¬ type.Reads literal?) : ∃ literal cause, literal? = some literal ∧
      CatalogDefault.isNull literal = false ∧ type.readLiteral literal = .error cause := by
  cases literal? with
  | none => exact absurd (by simp [Reads]) h
  | some literal =>
    cases hnull : CatalogDefault.isNull literal with
    | true => exact absurd (by simp [Reads, hnull]) h
    | false =>
      cases hread : type.readLiteral literal with
      | ok v => exact absurd (by simp [Reads, hread]) h
      | error cause => exact ⟨literal, cause, rfl, hnull, hread⟩

namespace Column

variable {column : Column} {table : String} {defaults : Defaults} {settings : Settings}

/-- The field of a column with a plan, with the default that a literal gives. -/
def lenientField (column : Column) (plan : ColumnPlan) (literal? : Option String) : RecordField :=
  ⟨column.fieldName, plan.fieldType, column.isOptional, plan.fieldType.default? literal?⟩

/-- The field of a column, if it has a plan, with the default that the catalog gives it. -/
def lenientField? (defaults : Defaults) (mapNumerics : Bool) (column : Column) :
    Option RecordField :=
  (ColumnPlan.ofColumn? column mapNumerics).map fun plan =>
    column.lenientField plan (defaults.literal? column)

/-- The literal of a column, if the column has a plan, can be read for its field. -/
def ReadsDefault (defaults : Defaults) (mapNumerics : Bool) (column : Column) : Prop :=
  ∀ plan ∈ ColumnPlan.ofColumn? column mapNumerics,
    plan.fieldType.Reads (defaults.literal? column)

/-- The strict policy refuses the default of a column with an error that names all about it. -/
def RefusesDefault (defaults : Defaults) (mapNumerics : Bool) (column : Column) (e : Error) :
    Prop :=
  ∃ plan literal cause, ColumnPlan.ofColumn? column mapNumerics = some plan ∧
    defaults.literal? column = some literal ∧ CatalogDefault.isNull literal = false ∧
    plan.fieldType.readLiteral literal = .error cause ∧
    e = .badDefault column.name literal plan.fieldType.display cause.message

/-- A default that cannot be read is refused with some error. -/
theorem exists_refusesDefault {mapNumerics : Bool}
    (h : ¬ column.ReadsDefault defaults mapNumerics) :
    ∃ e, column.RefusesDefault defaults mapNumerics e := by
  simp only [ReadsDefault, Classical.not_forall] at h
  obtain ⟨plan, hplan, hreads⟩ := h
  obtain ⟨literal, cause, hliteral, hnull, hread⟩ := FieldType.exists_of_not_reads hreads
  exact ⟨_, plan, literal, cause, hplan, hliteral, hnull, hread, rfl⟩

/-- A literal that can be read is the default of the field. -/
theorem fieldBy_of_reads {plan : ColumnPlan} {literal? : Option String}
    (h : plan.fieldType.Reads literal?) :
    column.fieldBy plan literal? = .ok (column.lenientField plan literal?) := by
  cases literal? with
  | none => rfl
  | some literal =>
    rcases h literal rfl with hnull | ⟨v, hread⟩
    · simp [fieldBy, defaultValue, lenientField, FieldType.default?, hnull, Except.map]
    · cases hnull : CatalogDefault.isNull literal <;>
        simp [fieldBy, defaultValue, lenientField, FieldType.default?, hnull, hread, Except.map,
          Except.mapError, Except.toOption]

/-- A literal that cannot be read is refused with its column, itself and the type. -/
theorem fieldBy_of_refused {plan : ColumnPlan} {literal : String} {cause : LiteralError}
    (hnull : CatalogDefault.isNull literal = false)
    (hread : plan.fieldType.readLiteral literal = .error cause) :
    column.fieldBy plan (some literal) =
      .error (.badDefault column.name literal plan.fieldType.display cause.message) := by
  simp [fieldBy, defaultValue, hnull, hread, Except.map, Except.mapError]

/-- A column becomes its field with the catalog's default, if this is read or may be dropped. -/
theorem toFieldIn_of_reads
    (h : settings.defaultPolicy = .ignore ∨ column.ReadsDefault defaults settings.mapNumerics) :
    (column.toFieldIn table defaults settings).1 =
      .ok (column.lenientField? defaults settings.mapNumerics) := by
  unfold toFieldIn toField lenientField?
  cases hplan : ColumnPlan.ofColumn? column settings.mapNumerics with
  | none => rfl
  | some plan =>
    by_cases hreads : plan.fieldType.Reads (defaults.literal? column)
    · simp [fieldBy_of_reads hreads, Except.map]
    · have hpolicy : settings.defaultPolicy = .ignore :=
        h.resolve_right fun hall => hreads (hall plan hplan)
      obtain ⟨literal, cause, hliteral, hnull, hread⟩ := FieldType.exists_of_not_reads hreads
      have hdropped : column.lenientField plan (some literal) = column.lenientField plan none := by
        simp [lenientField, FieldType.default?, hnull, hread, Except.toOption]
      rw [hliteral, Option.map_some, hdropped]
      simp only [fieldBy_of_refused hnull hread, hpolicy, Except.map]
      rfl

/-- Under the strict policy a default that cannot be read is the error of its column. -/
theorem toFieldIn_of_refused {e : Error} (hpolicy : settings.defaultPolicy = .fail)
    (h : column.RefusesDefault defaults settings.mapNumerics e) :
    (column.toFieldIn table defaults settings).1 = .error e := by
  obtain ⟨plan, literal, cause, hplan, hliteral, hnull, hread, rfl⟩ := h
  simp [toFieldIn, toField, hplan, hliteral, fieldBy_of_refused hnull hread, hpolicy, Except.map]

/-- Without any defaults there is none that cannot be read. -/
theorem readsDefault_of_no_defaults (column : Column) (mapNumerics : Bool) :
    column.ReadsDefault (fun _ => none) mapNumerics :=
  fun _ _ _ hliteral => nomatch hliteral

/-- Without any defaults the field of a column is the same one with its default taken away. -/
theorem lenientField?_of_no_defaults (defaults : Defaults) (column : Column)
    (mapNumerics : Bool) :
    column.lenientField? (fun _ => none) mapNumerics =
      (column.lenientField? defaults mapNumerics).map fun field =>
        { field with default? := none } := by
  unfold lenientField?
  rw [Option.map_map]
  rfl

/-- The fields that columns become, in order, if none of them fails. -/
def fieldsIn (table : String) (defaults : Defaults) (settings : Settings) :
    List Column → Except Error (List RecordField)
  | [] => .ok []
  | column :: rest => do
    let field? ← (column.toFieldIn table defaults settings).1
    let more ← fieldsIn table defaults settings rest
    pure (field?.toList ++ more)

/-- Columns whose defaults are read or may be dropped all become their fields. -/
theorem fieldsIn_of_reads {columns : List Column} (h : ∀ column ∈ columns,
      settings.defaultPolicy = .ignore ∨ column.ReadsDefault defaults settings.mapNumerics) :
    fieldsIn table defaults settings columns =
      .ok (columns.filterMap (lenientField? defaults settings.mapNumerics)) := by
  induction columns with
  | nil => rfl
  | cons column rest ih =>
    rw [fieldsIn, toFieldIn_of_reads (h column List.mem_cons_self),
      ih fun c hc => h c (List.mem_cons_of_mem column hc), List.filterMap_cons]
    cases column.lenientField? defaults settings.mapNumerics <;> rfl

/-- The first default that cannot be read is the error of the strict policy. -/
theorem fieldsIn_of_refused {before after : List Column} {column : Column} {e : Error}
    (hpolicy : settings.defaultPolicy = .fail)
    (hbefore : ∀ c ∈ before, c.ReadsDefault defaults settings.mapNumerics)
    (h : column.RefusesDefault defaults settings.mapNumerics e) :
    fieldsIn table defaults settings (before ++ column :: after) = .error e := by
  induction before with
  | nil =>
    rw [List.nil_append, fieldsIn, toFieldIn_of_refused hpolicy h]
    rfl
  | cons first before ih =>
    rw [List.cons_append, fieldsIn, toFieldIn_of_reads (.inr (hbefore first List.mem_cons_self)),
      ih fun c hc => hbefore c (List.mem_cons_of_mem first hc)]
    rfl

/-- Where not all defaults can be read, one is the first that is refused. -/
theorem exists_first_refused {mapNumerics : Bool} {columns : List Column}
    (h : ¬ ∀ column ∈ columns, column.ReadsDefault defaults mapNumerics) :
    ∃ before column after e, columns = before ++ column :: after ∧
      (∀ c ∈ before, c.ReadsDefault defaults mapNumerics) ∧
      column.RefusesDefault defaults mapNumerics e := by
  induction columns with
  | nil => exact absurd (by simp) h
  | cons column rest ih =>
    by_cases hfirst : column.ReadsDefault defaults mapNumerics
    · obtain ⟨before, other, after, e, rfl, hbefore, hrefused⟩ :=
        ih fun hall => h (by simpa [hfirst] using hall)
      exact ⟨column :: before, other, after, e, rfl, by simpa [hfirst] using hbefore, hrefused⟩
    · obtain ⟨e, hrefused⟩ := exists_refusesDefault hfirst
      exact ⟨[], column, rest, e, rfl, by simp, hrefused⟩

end Column

namespace Metadata

variable {σ : Type} {metadata : Metadata σ} {table : String} {defaults : Defaults}
  {settings : Settings}

/-- The columns at the given positions, as the metadata describes them one after the other. -/
def columnsAt (metadata : Metadata σ) : List Nat → Step σ (List Column)
  | [] => pure []
  | index :: rest => do
    let column ← Column.read metadata index
    let more ← columnsAt metadata rest
    pure (column :: more)

/-- All columns of a result, as the metadata describes them one after the other. -/
def snapshot (metadata : Metadata σ) : Step σ (List Column) := do
  let count ← metadata.columnCount
  metadata.columnsAt (List.range count)

/-- The fields of a schema depend on the columns that are read for it alone. -/
theorem fields_answer {indices : List Nat} {columns : List Column} {s : σ}
    (hread : (metadata.columnsAt indices s).1 = .ok columns) :
    (metadata.fields table defaults settings indices s).1 =
      Column.fieldsIn table defaults settings columns := by
  induction indices generalizing s columns with
  | nil =>
    cases hread
    rfl
  | cons index indices ih =>
    obtain ⟨column, hcolumn, hread⟩ := Step.exists_of_bind_ok hread
    obtain ⟨rest, hrest, hread⟩ := Step.exists_of_bind_ok hread
    cases hread
    rw [Metadata.fields, Traced.bind_lift_of_ok hcolumn, Column.fieldsIn]
    refine (Traced.bind_answer _ _ _).trans (congrArg _ (funext fun field? => ?_))
    rw [Traced.bind_answer, ih hrest]
    rfl

/-- A schema consists of the fields that the columns become, if none of them fails. -/
theorem toSchema_answer {columns : List Column} {s : σ}
    (hread : (metadata.snapshot s).1 = .ok columns) :
    (metadata.toSchema table defaults settings s).1 =
      (Column.fieldsIn table defaults settings columns).map (⟨table, ·⟩) := by
  obtain ⟨count, hcount, hread⟩ := Step.exists_of_bind_ok hread
  have hfields : (metadata.fields table defaults settings (List.range count)
      (metadata.columnCount s).2).1 = Column.fieldsIn table defaults settings columns :=
    fields_answer hread
  rw [toSchema, Traced.bind_answer, schemaAndDropped, Traced.bind_lift_of_ok hcount,
    Traced.bind_answer, hfields]
  cases Column.fieldsIn table defaults settings columns <;> rfl

/-- If all defaults are read or may be dropped, the schema has the fields of all planned columns. -/
theorem toSchema_of_reads {columns : List Column} {s : σ}
    (hread : (metadata.snapshot s).1 = .ok columns) (h : ∀ column ∈ columns,
      settings.defaultPolicy = .ignore ∨ column.ReadsDefault defaults settings.mapNumerics) :
    (metadata.toSchema table defaults settings s).1 =
      .ok ⟨table, columns.filterMap (Column.lenientField? defaults settings.mapNumerics)⟩ := by
  rw [toSchema_answer hread, Column.fieldsIn_of_reads h]
  rfl

/-- At the first default that cannot be read, the strict policy gives the schema up. -/
theorem toSchema_of_refused {before after : List Column} {column : Column} {e : Error} {s : σ}
    (hread : (metadata.snapshot s).1 = .ok (before ++ column :: after))
    (hpolicy : settings.defaultPolicy = .fail)
    (hbefore : ∀ c ∈ before, c.ReadsDefault defaults settings.mapNumerics)
    (h : column.RefusesDefault defaults settings.mapNumerics e) :
    (metadata.toSchema table defaults settings s).1 = .error e := by
  rw [toSchema_answer hread, Column.fieldsIn_of_refused hpolicy hbefore h]
  rfl

/-- Where fields are made of columns, these can be read. -/
theorem exists_columnsAt_of_fields {indices : List Nat} {s : σ} {fields : List RecordField}
    (h : (metadata.fields table defaults settings indices s).1 = .ok fields) :
    ∃ columns, (metadata.columnsAt indices s).1 = .ok columns := by
  induction indices generalizing s fields with
  | nil => exact ⟨[], rfl⟩
  | cons index indices ih =>
    obtain ⟨column, hcolumn, h⟩ := Traced.exists_of_bind_ok h
    obtain ⟨field?, -, h⟩ := Traced.exists_of_bind_ok h
    obtain ⟨more, hmore, -⟩ := Traced.exists_of_bind_ok h
    obtain ⟨columns, hcolumns⟩ := ih hmore
    have hcolumn : (Column.read metadata index s).1 = .ok column := hcolumn
    have hcolumns : (metadata.columnsAt indices (Column.read metadata index s).2).1 =
        .ok columns := hcolumns
    refine ⟨column :: columns, ?_⟩
    rw [columnsAt, Step.bind_of_ok hcolumn, Step.bind_of_ok hcolumns]
    rfl

/-- Where a schema is built, all columns of the result can be read. -/
theorem exists_snapshot_of_toSchema {s : σ} {schema : Schema}
    (h : (metadata.toSchema table defaults settings s).1 = .ok schema) :
    ∃ columns, (metadata.snapshot s).1 = .ok columns := by
  obtain ⟨dropped, h⟩ := schemaAndDropped_of_toSchema h
  obtain ⟨count, hcount, h⟩ := Traced.exists_of_bind_ok h
  obtain ⟨fields, hfields, -⟩ := Traced.exists_of_bind_ok h
  obtain ⟨columns, hcolumns⟩ := exists_columnsAt_of_fields hfields
  have hcount : (metadata.columnCount s).1 = .ok count := hcount
  refine ⟨columns, ?_⟩
  rw [snapshot, Step.bind_of_ok hcount]
  exact hcolumns

/-- A schema that is built has the fields of the planned columns, by either policy. -/
theorem fields_of_toSchema {s : σ} {schema : Schema}
    (h : (metadata.toSchema table defaults settings s).1 = .ok schema) :
    ∃ columns, (metadata.snapshot s).1 = .ok columns ∧
      schema.fields = columns.filterMap (Column.lenientField? defaults settings.mapNumerics) := by
  obtain ⟨columns, hread⟩ := exists_snapshot_of_toSchema h
  refine ⟨columns, hread, ?_⟩
  by_cases hall : ∀ column ∈ columns,
      settings.defaultPolicy = .ignore ∨ column.ReadsDefault defaults settings.mapNumerics
  · rw [toSchema_of_reads hread hall] at h
    cases h
    rfl
  · have hpolicy : settings.defaultPolicy = .fail := by
      cases hpolicy : settings.defaultPolicy with
      | fail => rfl
      | ignore => exact absurd (fun _ _ => .inl hpolicy) hall
    have hrefused : ¬ ∀ column ∈ columns, column.ReadsDefault defaults settings.mapNumerics :=
      fun hreads => hall fun column hcolumn => .inr (hreads column hcolumn)
    obtain ⟨before, column, after, e, rfl, hbefore, he⟩ := Column.exists_first_refused hrefused
    rw [toSchema_of_refused hread hpolicy hbefore he] at h
    cases h

/-- Without any defaults, the schema is the same one with all defaults taken away. -/
theorem toSchema_of_no_defaults {columns : List Column} {s : σ}
    (hread : (metadata.snapshot s).1 = .ok columns) (defaults : Defaults) :
    (metadata.toSchema table (fun _ => none) settings s).1 =
      .ok ⟨table, (columns.filterMap (Column.lenientField? defaults settings.mapNumerics)).map
        fun field => { field with default? := none }⟩ := by
  rw [toSchema_of_reads hread fun column _ => .inr (column.readsDefault_of_no_defaults _),
    List.map_filterMap]
  simp only [Column.lenientField?_of_no_defaults defaults]

/--
The two policies for defaults, for metadata whose lookups succeed. Dropping defaults never fails.
Refusing them fails exactly if some cannot be read, at the first that cannot, and else builds the
same schema. The defaults do not touch the names, the types and the nullability of the fields, and
what a literal is read as is a value of its type.
-/
theorem toSchema_policies {columns : List Column} {s : σ}
    (hread : (metadata.snapshot s).1 = .ok columns) (table : String) (defaults : Defaults)
    (settings : Settings) :
    let build (defaults : Defaults) (defaultPolicy : DefaultPolicy) : Except Error Schema :=
      (metadata.toSchema table defaults { settings with defaultPolicy } s).1
    let reads (column : Column) : Prop := column.ReadsDefault defaults settings.mapNumerics
    let schema : Schema :=
      ⟨table, columns.filterMap (Column.lenientField? defaults settings.mapNumerics)⟩
    build defaults .ignore = .ok schema ∧
      (∀ built, build defaults .fail = .ok built ↔
        (∀ column ∈ columns, reads column) ∧ built = schema) ∧
      (¬ (∀ column ∈ columns, reads column) →
        ∃ before column after e, columns = before ++ column :: after ∧ (∀ c ∈ before, reads c) ∧
          column.RefusesDefault defaults settings.mapNumerics e ∧
          build defaults .fail = .error e) ∧
      (∀ policy, build (fun _ => none) policy =
        .ok ⟨table, schema.fields.map fun field => { field with default? := none }⟩) ∧
      ∀ (type : FieldType) (literal : String) (v : Value), type.readLiteral literal = .ok v →
        v ≠ .null ∧ type.accepts v = true := by
  intro build reads schema
  have hreads (h : ∀ column ∈ columns, reads column) : build defaults .fail = .ok schema :=
    toSchema_of_reads hread fun column hcolumn => .inr (h column hcolumn)
  have hrefused (h : ¬ ∀ column ∈ columns, reads column) :
      ∃ before column after e, columns = before ++ column :: after ∧ (∀ c ∈ before, reads c) ∧
        column.RefusesDefault defaults settings.mapNumerics e ∧
        build defaults .fail = .error e := by
    obtain ⟨before, column, after, e, rfl, hbefore, he⟩ := Column.exists_first_refused h
    exact ⟨before, column, after, e, rfl, hbefore, he, toSchema_of_refused hread rfl hbefore he⟩
  refine ⟨toSchema_of_reads hread fun _ _ => .inl rfl, fun built => ⟨fun hbuilt => ?_, ?_⟩,
    hrefused, fun policy => toSchema_of_no_defaults hread defaults, fun type literal v h => ?_⟩
  · by_cases h : ∀ column ∈ columns, reads column
    · rw [hreads h] at hbuilt
      cases hbuilt
      exact ⟨h, rfl⟩
    · obtain ⟨_, _, _, _, _, _, _, hfailed⟩ := hrefused h
      rw [hbuilt] at hfailed
      cases hfailed
  · rintro ⟨h, rfl⟩
    exact hreads h
  · have haccepts := FieldType.accepts_of_readLiteral h
    refine ⟨?_, haccepts⟩
    rintro rfl
    cases type <;> cases haccepts

/-- Of two columns that share a catalog name and thereby a default, one cannot hold it. -/
theorem toSchema_policies_shared_name :
    let count : Column := ⟨"n", "", .integer, .nullable, true, 10, 0⟩
    let day : Column := ⟨"n", "day", .date, .noNulls, false, 0, 0⟩
    let build (defaultPolicy : DefaultPolicy) : Except Error Schema :=
      (ResultTable.metadata.toSchema "t" (fun _ => some "12")
        { Settings.standard with defaultPolicy } (.ofRows [count, day] [])).1
    (ResultTable.metadata.snapshot (.ofRows [count, day] [])).1 = .ok [count, day] ∧
      build .ignore = .ok ⟨"t", [⟨"n", .int32, true, some (.int32 12)⟩,
        ⟨"day", .date, false, none⟩]⟩ ∧
      ∃ e, build .fail = .error e := by
  intro count day build
  have hread : (ResultTable.metadata.snapshot (.ofRows [count, day] [])).1 = .ok [count, day] := rfl
  obtain ⟨hignore, -, hfail, -⟩ :=
    toSchema_policies hread "t" (fun _ => some "12") Settings.standard
  have hday : ¬ ∀ column ∈ [count, day],
      column.ReadsDefault (fun _ => some "12") Settings.standard.mapNumerics := by
    intro h
    rcases h day (by decide) .date rfl "12" rfl with hnull | ⟨v, hv⟩
    · exact absurd hnull (by decide)
    · cases hv
  obtain ⟨_, _, _, e, -, -, -, he⟩ := hfail hday
  exact ⟨hread, hignore.trans (by rfl), e, he⟩

end Metadata

end RowCast

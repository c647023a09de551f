import RowCast.Conversion.Converter
import RowCast.Proofs.Defaults

/-!
# What building a schema answers and reports

Each column turns out in one of three ways: it is left out, it is kept with the default of the
catalog, or it is kept without the default that could not be read. The first and the last are
reported, once each and in the order of the columns, and then the schema itself with its numbers.

Metadata are looked up in a fixed order. The first lookup that fails is the error of the schema,
unless the strict policy has refused the default of a column that was read before.
-/

namespace RowCast

namespace Step

variable {σ α β : Type}

/-- Perform a step for what it does, whatever it answers. -/
def silent (x : Step σ α) : Step σ Unit :=
  x.map fun _ => ()

/-- Perform steps one after the other, up to the first that fails. -/
def all : List (Step σ Unit) → Step σ Unit
  | [] => pure ()
  | x :: rest => do
    x
    all rest

/-- A step without its answer fails exactly as the step does. -/
theorem silent_error_iff {x : Step σ α} {s : σ} {e : Error} :
    (x.silent s).1 = .error e ↔ (x s).1 = .error e := by
  rw [silent, map_apply]
  cases (x s).1 <;> simp [Except.map]

/-- Where the rest does the same after every answer, the answer may be forgotten at once. -/
theorem silent_bind {x : Step σ α} {f : α → Step σ β} {rest : Step σ Unit}
    (h : ∀ a, (f a).silent = rest) : (x >>= f).silent = (do x.silent; rest) := by
  funext s
  have hx : x.silent s = ((x s).1.map fun _ => (), (x s).2) := map_apply _ x s
  cases hanswer : (x s).1 with
  | error e =>
    rw [hanswer] at hx
    rw [bind_of_error (congrArg Prod.fst hx), hx, silent, map_apply, bind_of_error hanswer]
    rfl
  | ok a =>
    rw [hanswer] at hx
    rw [bind_of_ok (congrArg Prod.fst hx), hx, ← h a, silent, silent, map_apply, map_apply,
      bind_of_ok hanswer]

/-- Steps fail with the error of one of them, behind steps that all succeed. -/
theorem all_error {steps : List (Step σ Unit)} {s : σ} {e : Error}
    (h : (all steps s).1 = .error e) : ∃ passed x missed moved, steps = passed ++ x :: missed ∧
      all passed s = (.ok (), moved) ∧ (x moved).1 = .error e := by
  induction steps generalizing s with
  | nil => cases h
  | cons x rest ih =>
    cases hx : (x s).1 with
    | error e' =>
      rw [all, bind_of_error hx] at h
      cases h
      exact ⟨[], x, rest, s, rfl, rfl, hx⟩
    | ok =>
      rw [all, bind_of_ok hx] at h
      obtain ⟨passed, y, missed, moved, rfl, hpassed, hy⟩ := ih h
      refine ⟨x :: passed, y, missed, moved, rfl, ?_, hy⟩
      rw [all, bind_of_ok hx, hpassed]

/-- A step that fails behind steps that all succeed makes the whole fail. -/
theorem all_of_error {passed missed : List (Step σ Unit)} {x : Step σ Unit} {s moved : σ}
    {e : Error} (hpassed : all passed s = (.ok (), moved)) (hx : (x moved).1 = .error e) :
    (all (passed ++ x :: missed) s).1 = .error e := by
  induction passed generalizing s with
  | nil =>
    cases hpassed
    rw [List.nil_append, all, bind_of_error hx]
  | cons y passed ih =>
    cases hy : (y s).1 with
    | error e' =>
      rw [all, bind_of_error hy] at hpassed
      cases congrArg Prod.fst hpassed
    | ok =>
      rw [all, bind_of_ok hy] at hpassed
      rw [List.cons_append, all, bind_of_ok hy]
      exact ih hpassed

end Step

/--
How a column turns out in a schema: the field that it becomes, if it becomes one, and what is
reported of it. A field is made with the literal of the catalog, or without one where it was
dropped.
-/
inductive Column.Mapped (table : String) (defaults : Defaults) (settings : Settings)
    (column : Column) : Option RecordField → List Event → Prop where
  | unsupported (hplan : ColumnPlan.ofColumn? column settings.mapNumerics = none) :
    Mapped table defaults settings column none
      [.unsupportedColumn column.name column.columnType]
  | kept {field : RecordField} (hreads : column.ReadsDefault defaults settings.mapNumerics)
    (hfield : column.toField (defaults.literal? column) settings.mapNumerics =
      (.ok (some field), [])) :
    Mapped table defaults settings column (some field) []
  | dropped {field : RecordField} {e : Error} (hpolicy : settings.defaultPolicy = .ignore)
    (hrefused : column.RefusesDefault defaults settings.mapNumerics e)
    (hfield : column.toField none settings.mapNumerics = (.ok (some field), [])) :
    Mapped table defaults settings column (some field) [.droppedDefault table column.name e]

/-- Without a literal there is none that cannot be read. -/
theorem FieldType.reads_none (type : FieldType) : type.Reads none :=
  fun _ hliteral => nomatch hliteral

namespace Column

variable {column : Column} {table : String} {defaults : Defaults} {settings : Settings}

/-- A column that the schema can be built with turns out in one of the three ways. -/
theorem mapped_of_toFieldIn {field? : Option RecordField} {log : List Event}
    (h : column.toFieldIn table defaults settings = (.ok field?, log)) :
    column.Mapped table defaults settings field? log := by
  cases hplan : ColumnPlan.ofColumn? column settings.mapNumerics with
  | none =>
    simp only [toFieldIn, toField, hplan, Prod.mk.injEq, Except.ok.injEq] at h
    obtain ⟨rfl, rfl⟩ := h
    exact .unsupported hplan
  | some plan =>
    by_cases hreads : column.ReadsDefault defaults settings.mapNumerics
    · have hfield := @fieldBy_of_reads column _ _ (hreads plan hplan)
      simp only [toFieldIn, toField, hplan, hfield, Except.map, Prod.mk.injEq,
        Except.ok.injEq] at h
      obtain ⟨rfl, rfl⟩ := h
      exact .kept hreads (by simp [toField, hplan, hfield, Except.map])
    · obtain ⟨e, hrefused⟩ := exists_refusesDefault hreads
      cases hpolicy : settings.defaultPolicy with
      | fail => cases (toFieldIn_of_refused hpolicy hrefused).symm.trans (congrArg Prod.fst h)
      | ignore =>
        obtain ⟨found, literal, cause, hfound, hliteral, hnull, hread, rfl⟩ := id hrefused
        cases hplan.symm.trans hfound
        have hfailed : column.toField (defaults.literal? column) settings.mapNumerics =
            (.error (.badDefault column.name literal plan.fieldType.display cause.message),
              []) := by
          simp [toField, hplan, hliteral, fieldBy_of_refused hnull hread, Except.map]
        have hbuilt : column.toField none settings.mapNumerics =
            (.ok (some (column.lenientField plan none)), []) := by
          simp only [toField, hplan, fieldBy_of_reads (FieldType.reads_none _), Except.map]
        simp only [toFieldIn, hfailed, hpolicy, hbuilt, List.nil_append, Prod.mk.injEq,
          Except.ok.injEq] at h
        obtain ⟨rfl, rfl⟩ := h
        exact .dropped hpolicy hrefused hbuilt

/-- A column becomes a field exactly if its type has a counterpart. -/
theorem Mapped.isSome_eq {field? : Option RecordField} {log : List Event}
    (h : column.Mapped table defaults settings field? log) :
    field?.isSome = column.isSupported settings := by
  have hsupported {literal : Option String} {field : RecordField}
      (hfield : column.toField literal settings.mapNumerics = (.ok (some field), [])) :
      column.isSupported settings = true := by
    obtain ⟨-, hnone⟩ | ⟨plan, field, hplan, -⟩ := toField_ok (congrArg Prod.fst hfield)
    · cases hnone
    · simp [isSupported, hplan]
  cases h with
  | unsupported hplan => simp [isSupported, hplan]
  | kept _ hfield => exact (hsupported hfield).symm
  | dropped _ _ hfield => exact (hsupported hfield).symm

/-- Whatever is reported of a column is a warning. -/
theorem Mapped.warns {field? : Option RecordField} {log : List Event}
    (h : column.Mapped table defaults settings field? log) :
    ∀ event ∈ log, event.severity = .warn := by
  cases h <;> simp [Event.severity]

end Column

namespace Metadata

variable {σ : Type} {metadata : Metadata σ} {table : String} {defaults : Defaults}
  {settings : Settings}

/-- The lookups that the snapshot of a column takes, in order. -/
def lookups (metadata : Metadata σ) (index : Nat) : List (Step σ Unit) :=
  [(metadata.columnName index).silent, (metadata.columnLabel index).silent,
    (metadata.columnType index).silent, (metadata.nullability index).silent,
    (metadata.isSigned index).silent, (metadata.precision index).silent,
    (metadata.scale index).silent]

/--
The first lookup that fails, with the columns that are read before it: the number of columns is
looked up first, and then each column in the order of its lookups.
-/
inductive FirstFailure (metadata : Metadata σ) (s : σ) : List Column → Error → Prop where
  | columnCount {e : Error} (hfailed : (metadata.columnCount s).1 = .error e) :
    FirstFailure metadata s [] e
  | column {count index : Nat} {read : List Column} {passed missed : List (Step σ Unit)}
    {lookup : Step σ Unit} {counted reached moved : σ} {e : Error}
    (hcount : metadata.columnCount s = (.ok count, counted)) (hindex : index < count)
    (hread : metadata.columnsAt (List.range index) counted = (.ok read, reached))
    (horder : metadata.lookups index = passed ++ lookup :: missed)
    (hpassed : Step.all passed reached = (.ok (), moved))
    (hfailed : (lookup moved).1 = .error e) : FirstFailure metadata s read e

/-- The snapshot of a column does what its lookups do in order. -/
theorem silent_read (metadata : Metadata σ) (index : Nat) :
    (Column.read metadata index).silent = Step.all (metadata.lookups index) :=
  Step.silent_bind fun _ => Step.silent_bind fun _ => Step.silent_bind fun _ =>
    Step.silent_bind fun _ => Step.silent_bind fun _ => Step.silent_bind fun _ =>
      Step.silent_bind fun _ => rfl

/-- The snapshot of a column fails with the error of the first of its lookups that fails. -/
theorem read_error_iff {index : Nat} {s : σ} {e : Error} :
    (Column.read metadata index s).1 = .error e ↔
      (Step.all (metadata.lookups index) s).1 = .error e := by
  rw [← silent_read, Step.silent_error_iff]

/-- Columns cannot be read because of one of them, behind columns that can. -/
theorem columnsAt_error {indices : List Nat} {s : σ} {e : Error}
    (h : (metadata.columnsAt indices s).1 = .error e) :
    ∃ before index after read reached, indices = before ++ index :: after ∧
      metadata.columnsAt before s = (.ok read, reached) ∧
      (Column.read metadata index reached).1 = .error e := by
  induction indices generalizing s with
  | nil => cases h
  | cons index rest ih =>
    cases hcolumn : (Column.read metadata index s).1 with
    | error e' =>
      rw [columnsAt, Step.bind_of_error hcolumn] at h
      cases h
      exact ⟨[], index, rest, [], s, rfl, rfl, hcolumn⟩
    | ok column =>
      rw [columnsAt, Step.bind_of_ok hcolumn] at h
      cases hrest : (metadata.columnsAt rest (Column.read metadata index s).2).1 with
      | ok more =>
        rw [Step.bind_of_ok hrest] at h
        cases h
      | error e' =>
        rw [Step.bind_of_error hrest] at h
        cases h
        obtain ⟨before, failing, after, read, reached, rfl, hread, hfailed⟩ := ih hrest
        refine ⟨index :: before, failing, after, column :: read, reached, rfl, ?_, hfailed⟩
        rw [columnsAt, Step.bind_of_ok hcolumn, Step.bind_of_ok (congrArg Prod.fst hread), hread]
        rfl

/-- The first numbers in order, cut at one of them. -/
theorem range_eq_append_cons_iff {count index : Nat} {before after : List Nat} :
    List.range count = before ++ index :: after ↔ index < count ∧ before = List.range index ∧
      after = List.range' (index + 1) (count - index - 1) := by
  rw [List.range_eq_range', List.range_eq_range', List.range'_eq_append_iff]
  constructor
  · rintro ⟨k, -, rfl, h⟩
    obtain ⟨rfl, hpos, rfl⟩ := List.range'_eq_cons_iff.mp h.symm
    simp
    omega
  · rintro ⟨hindex, rfl, rfl⟩
    refine ⟨index, Nat.le_of_lt hindex, rfl, (List.range'_eq_cons_iff.mpr ⟨?_, ?_, rfl⟩).symm⟩
    · omega
    · omega

/-- Where not all lookups succeed, one is the first that fails. -/
theorem exists_firstFailure {s : σ} {e : Error} (h : (metadata.snapshot s).1 = .error e) :
    ∃ read, metadata.FirstFailure s read e := by
  rcases hcount : metadata.columnCount s with ⟨e' | count, counted⟩
  · rw [snapshot, Step.bind_of_error (congrArg Prod.fst hcount)] at h
    cases h
    exact ⟨[], .columnCount (congrArg Prod.fst hcount)⟩
  · rw [snapshot, Step.bind_of_ok (congrArg Prod.fst hcount), hcount] at h
    obtain ⟨before, index, after, read, reached, hrange, hread, hfailed⟩ := columnsAt_error h
    obtain ⟨passed, lookup, missed, moved, horder, hpassed, hlookup⟩ :=
      Step.all_error (read_error_iff.mp hfailed)
    obtain ⟨hindex, rfl, -⟩ := range_eq_append_cons_iff.mp hrange
    exact ⟨read, .column hcount hindex hread horder hpassed hlookup⟩

/-- Each column that is read turns out in its way, and the reports follow each other in order. -/
theorem fields_mapped {indices : List Nat} {columns : List Column} {s s' : σ}
    (hread : (metadata.columnsAt indices s).1 = .ok columns) {fields : List RecordField}
    {log : List Event}
    (h : metadata.fields table defaults settings indices s = (.ok fields, log, s')) :
    ∃ turns : List (Option RecordField × List Event),
      List.Forall₂ (fun column turn => column.Mapped table defaults settings turn.1 turn.2)
        columns turns ∧
      fields = turns.filterMap (·.1) ∧ log = turns.flatMap (·.2) := by
  induction indices generalizing s columns fields log with
  | nil =>
    cases hread
    cases h
    exact ⟨[], .nil, rfl, rfl⟩
  | cons index rest ih =>
    obtain ⟨column, hcolumn, hread⟩ := Step.exists_of_bind_ok hread
    obtain ⟨columns, hrest, hread⟩ := Step.exists_of_bind_ok hread
    cases hread
    rw [Metadata.fields, Traced.bind_lift_of_ok hcolumn] at h
    obtain ⟨field?, report, moved, more, hfield, hlater, rfl⟩ := Traced.exists_of_bind_eq_ok h
    change ((column.toFieldIn table defaults settings).1,
      (column.toFieldIn table defaults settings).2, _) = _ at hfield
    simp only [Prod.mk.injEq] at hfield
    obtain ⟨hfield, rfl, rfl⟩ := hfield
    obtain ⟨others, report, last, done, hfields, hall, rfl⟩ := Traced.exists_of_bind_eq_ok hlater
    simp only [Traced.pure_apply, Prod.mk.injEq, Except.ok.injEq] at hall
    obtain ⟨rfl, rfl, rfl⟩ := hall
    obtain ⟨turns, hturns, rfl, rfl⟩ := ih hrest hfields
    refine ⟨(field?, (column.toFieldIn table defaults settings).2) :: turns,
      .cons (Column.mapped_of_toFieldIn (Prod.ext hfield rfl)) hturns, ?_, ?_⟩
    · cases field? <;> rfl
    · simp

/-- A column that cannot be read fails the fields, unless a default before it is refused. -/
theorem fields_of_failure {before after : List Nat} {index : Nat} {read : List Column}
    {s reached : σ} {e : Error} (hread : metadata.columnsAt before s = (.ok read, reached))
    (hfailed : (Column.read metadata index reached).1 = .error e) :
    (metadata.fields table defaults settings (before ++ index :: after) s).1 =
      (Column.fieldsIn table defaults settings read).bind fun _ => .error e := by
  induction before generalizing s read with
  | nil =>
    cases hread
    rw [List.nil_append, Metadata.fields, Traced.bind_lift_of_error hfailed]
    rfl
  | cons first before ih =>
    cases hcolumn : (Column.read metadata first s).1 with
    | error e' =>
      rw [columnsAt, Step.bind_of_error hcolumn] at hread
      cases congrArg Prod.fst hread
    | ok column =>
      rw [columnsAt, Step.bind_of_ok hcolumn] at hread
      rcases hrest : metadata.columnsAt before (Column.read metadata first s).2 with
        ⟨e' | rest, last⟩
      · rw [Step.bind_of_error (congrArg Prod.fst hrest)] at hread
        cases congrArg Prod.fst hread
      · rw [Step.bind_of_ok (congrArg Prod.fst hrest), hrest] at hread
        cases hread
        rw [List.cons_append, Metadata.fields, Traced.bind_lift_of_ok hcolumn, Column.fieldsIn]
        -- Making the field of a column does not touch the source, so the rest is read as before.
        refine (Traced.bind_answer _ _ _).trans ?_
        change (column.toFieldIn table defaults settings).1.bind (fun field? => _) = _
        cases hfield : (column.toFieldIn table defaults settings).1 with
        | error e' => rfl
        | ok field? =>
          have hfields := ih hrest
          change ((metadata.fields table defaults settings (before ++ index :: after) >>= _)
            (Column.read metadata first s).2).1 = _
          rw [Traced.bind_answer, hfields]
          cases Column.fieldsIn table defaults settings rest <;> rfl

/-- As many columns are read as are asked for. -/
theorem columnsAt_length {indices : List Nat} {columns : List Column} {s : σ}
    (hread : (metadata.columnsAt indices s).1 = .ok columns) :
    columns.length = indices.length := by
  induction indices generalizing s columns with
  | nil =>
    cases hread
    rfl
  | cons index rest ih =>
    obtain ⟨column, hcolumn, hread⟩ := Step.exists_of_bind_ok hread
    obtain ⟨columns, hrest, hread⟩ := Step.exists_of_bind_ok hread
    cases hread
    rw [List.length_cons, ih hrest, List.length_cons]

/-- The first lookup that fails is the error, unless a default before it is refused. -/
theorem FirstFailure.schemaAndDropped {s : σ} {read : List Column} {e : Error}
    (h : metadata.FirstFailure s read e) :
    (metadata.schemaAndDropped table defaults settings s).1 =
      (Column.fieldsIn table defaults settings read).bind fun _ => .error e := by
  cases h with
  | columnCount hfailed =>
    rw [Metadata.schemaAndDropped, Traced.bind_lift_of_error hfailed]
    rfl
  | @column count index read passed missed lookup counted reached moved e hcount hindex hread
      horder hpassed hfailed =>
    have hcolumn : (Column.read metadata index reached).1 = .error e := by
      rw [read_error_iff, horder]
      exact Step.all_of_error hpassed hfailed
    rw [Metadata.schemaAndDropped, Traced.bind_lift_of_ok (congrArg Prod.fst hcount), hcount,
      Traced.bind_answer, range_eq_append_cons_iff.mpr ⟨hindex, rfl, rfl⟩,
      fields_of_failure hread hcolumn]
    cases Column.fieldsIn table defaults settings read <;> rfl

end Metadata

namespace Column

variable {columns : List Column} {table : String} {defaults : Defaults} {settings : Settings}

/-- As many fields are made as columns have a type with a counterpart. -/
theorem Mapped.length_fields {turns : List (Option RecordField × List Event)}
    (h : List.Forall₂
      (fun column turn => Column.Mapped table defaults settings column turn.1 turn.2)
      columns turns) :
    (turns.filterMap (·.1)).length = (columns.filter (·.isSupported settings)).length := by
  induction h with
  | nil => rfl
  | @cons column turn columns turns hturn _ ih =>
    rw [List.filterMap_cons, List.filter_cons, ← hturn.isSome_eq]
    cases turn.1 with
    | none => exact ih
    | some field => exact congrArg (· + 1) ih

/-- All that is reported of columns are warnings. -/
theorem Mapped.all_warn {turns : List (Option RecordField × List Event)}
    (h : List.Forall₂
      (fun column turn => Column.Mapped table defaults settings column turn.1 turn.2)
      columns turns) :
    ∀ event ∈ turns.flatMap (·.2), event.severity = .warn := by
  induction h with
  | nil => simp
  | cons hturn _ ih =>
    intro event hevent
    rw [List.flatMap_cons] at hevent
    exact (List.mem_append.mp hevent).elim (hturn.warns event) (ih event)

/-- Columns become their fields, or the strict policy refuses the default of the first it can. -/
theorem fieldsIn_cases (table : String) (defaults : Defaults) (settings : Settings)
    (columns : List Column) :
    ((settings.defaultPolicy = .ignore ∨
        ∀ column ∈ columns, column.ReadsDefault defaults settings.mapNumerics) ∧
      ∃ fields, fieldsIn table defaults settings columns = .ok fields) ∨
    settings.defaultPolicy = .fail ∧ ∃ before column after refusal,
      columns = before ++ column :: after ∧
      (∀ c ∈ before, c.ReadsDefault defaults settings.mapNumerics) ∧
      column.RefusesDefault defaults settings.mapNumerics refusal ∧
      fieldsIn table defaults settings columns = .error refusal := by
  by_cases hall : ∀ column ∈ columns, column.ReadsDefault defaults settings.mapNumerics
  · exact .inl ⟨.inr hall, _, fieldsIn_of_reads fun column hcolumn => .inr (hall column hcolumn)⟩
  · cases hpolicy : settings.defaultPolicy with
    | ignore => exact .inl ⟨.inl rfl, _, fieldsIn_of_reads fun _ _ => .inl hpolicy⟩
    | fail =>
      obtain ⟨before, column, after, refusal, rfl, hbefore, hrefused⟩ := exists_first_refused hall
      exact .inr ⟨rfl, before, column, after, refusal, rfl, hbefore, hrefused,
        fieldsIn_of_refused hpolicy hbefore hrefused⟩

end Column

/--
A schema that is built has the fields that its columns become, and the columns without one make up
the number of all columns. What was reported are the reports of the columns, in order.
-/
theorem Metadata.schemaAndDropped_mapped {σ : Type} {metadata : Metadata σ} {table : String}
    {defaults : Defaults} {settings : Settings} {s s' : σ} {columns : List Column}
    (hread : (metadata.snapshot s).1 = .ok columns) {schema : Schema} {dropped : Nat}
    {log : List Event}
    (h : metadata.schemaAndDropped table defaults settings s = (.ok (schema, dropped), log, s')) :
    ∃ turns : List (Option RecordField × List Event),
      List.Forall₂ (fun column turn => column.Mapped table defaults settings turn.1 turn.2)
        columns turns ∧
      schema = ⟨table, turns.filterMap (·.1)⟩ ∧
      dropped = (columns.filter fun column => !column.isSupported settings).length ∧
      (metadata.columnCount s).1 = .ok (schema.size + dropped) ∧ log = turns.flatMap (·.2) := by
  obtain ⟨count, hcount, hread⟩ := Step.exists_of_bind_ok hread
  rw [schemaAndDropped, Traced.bind_lift_of_ok hcount] at h
  obtain ⟨fields, reports, last, rest, hfields, hbuilt, rfl⟩ := Traced.exists_of_bind_eq_ok h
  simp only [Traced.pure_apply, Prod.mk.injEq, Except.ok.injEq] at hbuilt
  obtain ⟨⟨rfl, rfl⟩, rfl, rfl⟩ := hbuilt
  obtain ⟨turns, hturns, rfl, rfl⟩ := fields_mapped hread hfields
  -- The supported columns are as many as the fields, and the others are the rest of the columns.
  have hsupported := Column.Mapped.length_fields hturns
  have hsplit := List.length_eq_length_filter_add (l := columns) (·.isSupported settings)
  have hlength := columnsAt_length hread
  rw [List.length_range] at hlength
  have hall : (turns.filterMap (·.1)).length + (count - (turns.filterMap (·.1)).length) =
      count := by omega
  exact ⟨turns, hturns, rfl, by omega, hcount.trans (congrArg _ hall.symm), List.append_nil _⟩

namespace Converter

variable {σ : Type}

/-- What is answered of a schema is the schema that was built with its numbers. -/
theorem schemaOf_answer (metadata : Metadata σ) (table : String) (defaults : Defaults)
    (c : Converter) (s : σ) : (schemaOf metadata table defaults (c, s)).1 =
      (metadata.schemaAndDropped table defaults c.settings s).1.map Prod.fst := by
  simp only [schemaOf]
  rcases metadata.schemaAndDropped table defaults c.settings s with ⟨e | built, log, s'⟩ <;> rfl

/--
What building a schema answers and reports. A schema that is built has the fields of the columns
that have one, in order. Columns without one make up the number of all columns, and are reported as
dropped; so are defaults that were dropped. These warnings come in the order of the columns, and
then the numbers of fields and of dropped columns. Where a lookup fails, the first one that does is
the error, unless the strict policy has refused the default of a column that was read before it.
-/
theorem schemaOf_fields_and_reports (metadata : Metadata σ) (table : String) (defaults : Defaults)
    (c : Converter) (s : σ) :
    (∀ columns schema log c' s', (metadata.snapshot s).1 = .ok columns →
      schemaOf metadata table defaults (c, s) = (.ok schema, log, c', s') →
      ∃ (turns : List (Option RecordField × List Event)) (dropped : Nat),
        List.Forall₂ (fun column turn => column.Mapped table defaults c.settings turn.1 turn.2)
          columns turns ∧
        schema = ⟨table, turns.filterMap (·.1)⟩ ∧
        dropped = (columns.filter fun column => !column.isSupported c.settings).length ∧
        (metadata.columnCount s).1 = .ok (schema.size + dropped) ∧
        (∀ event ∈ turns.flatMap (·.2), event.severity = .warn) ∧
        log = turns.flatMap (·.2) ++ [.builtSchema table schema.size dropped]) ∧
    ((∃ columns, (metadata.snapshot s).1 = .ok columns) ∨
      ∃ read e, metadata.FirstFailure s read e) ∧
    ∀ read e, metadata.FirstFailure s read e →
      ((c.settings.defaultPolicy = .ignore ∨
          ∀ column ∈ read, column.ReadsDefault defaults c.settings.mapNumerics) ∧
        (schemaOf metadata table defaults (c, s)).1 = .error e) ∨
      c.settings.defaultPolicy = .fail ∧ ∃ before column after refusal,
        read = before ++ column :: after ∧
        (∀ other ∈ before, other.ReadsDefault defaults c.settings.mapNumerics) ∧
        column.RefusesDefault defaults c.settings.mapNumerics refusal ∧
        (schemaOf metadata table defaults (c, s)).1 = .error refusal := by
  refine ⟨fun columns schema log c' s' hread h => ?_, ?_, fun read e hfailure => ?_⟩
  · rcases hrun : metadata.schemaAndDropped table defaults c.settings s with
      ⟨e | ⟨built, dropped⟩, reports, moved⟩
    · simp only [schemaOf, hrun] at h
      cases congrArg Prod.fst h
    · simp only [schemaOf, hrun, Prod.mk.injEq, Except.ok.injEq] at h
      obtain ⟨rfl, rfl, -, -⟩ := h
      obtain ⟨turns, hturns, hschema, hdropped, hcount, rfl⟩ :=
        Metadata.schemaAndDropped_mapped hread hrun
      exact ⟨turns, dropped, hturns, hschema, hdropped, hcount, Column.Mapped.all_warn hturns, rfl⟩
  · cases hsnapshot : (metadata.snapshot s).1 with
    | ok columns => exact .inl ⟨columns, rfl⟩
    | error e =>
      obtain ⟨read, hfailure⟩ := Metadata.exists_firstFailure hsnapshot
      exact .inr ⟨read, e, hfailure⟩
  · rw [schemaOf_answer, hfailure.schemaAndDropped]
    obtain ⟨hreads, fields, hfields⟩ | ⟨hpolicy, before, column, after, refusal, hsplit, hbefore,
      hrefused, hfields⟩ := Column.fieldsIn_cases table defaults c.settings read
    · exact .inl ⟨hreads, by rw [hfields]; rfl⟩
    · exact .inr ⟨hpolicy, before, column, after, refusal, hsplit, hbefore, hrefused,
        by rw [hfields]; rfl⟩

/-- Of three columns one is kept, one is left out and one loses its default, or cannot be read. -/
theorem schemaOf_fields_and_reports_of_three_columns :
    let columns : List Column := [⟨"n", "", .integer, .noNulls, true, 10, 0⟩,
      ⟨"tags", "", .array, .nullable, false, 0, 0⟩, ⟨"day", "", .date, .nullable, false, 0, 0⟩]
    let defaults : Defaults := fun name => if name = "day" then some "soon" else none
    let c : Converter := ⟨{ Settings.standard with defaultPolicy := .ignore }, .zero⟩
    let table := ResultTable.ofRows columns []
    let faulty : Faulty ResultTable := ⟨table, [⟨.scale, some 2, "lost", 0⟩], none⟩
    let outcome := schemaOf ResultTable.metadata "t" defaults (c, table)
    outcome.1 = .ok ⟨"t", [⟨"n", .int32, false, none⟩, ⟨"day", .date, true, none⟩]⟩ ∧
      (∃ reports, outcome.2.1 = reports ++ [.builtSchema "t" 2 1] ∧
        ∀ event ∈ reports, event.severity = .warn) ∧
      (schemaOf (Faulty.metadata ResultTable.metadata) "t" defaults (c, faulty)).1 =
        .error (.driver "lost") := by
  intro columns defaults c table faulty outcome
  have hschema : outcome.1 =
      .ok ⟨"t", [⟨"n", .int32, false, none⟩, ⟨"day", .date, true, none⟩]⟩ := rfl
  refine ⟨hschema, ?_, ?_⟩
  · obtain ⟨hbuilt, -⟩ := schemaOf_fields_and_reports ResultTable.metadata "t" defaults c table
    obtain ⟨turns, dropped, -, -, rfl, -, hwarn, hlog⟩ :=
      hbuilt columns _ outcome.2.1 outcome.2.2.1 outcome.2.2.2 rfl (Prod.ext hschema rfl)
    exact ⟨_, hlog, hwarn⟩
  · obtain ⟨-, -, hfailed⟩ :=
      schemaOf_fields_and_reports (Faulty.metadata ResultTable.metadata) "t" defaults c faulty
    let metadata := Faulty.metadata ResultTable.metadata
    have hcount : metadata.columnCount faulty = (.ok 3, faulty) := rfl
    have hindex : 2 < 3 := by decide
    have hread : metadata.columnsAt (List.range 2) faulty =
        (.ok [columns[0], columns[1]], faulty) := rfl
    have horder : metadata.lookups 2 =
        (metadata.lookups 2).take 6 ++ (metadata.scale 2).silent :: [] := rfl
    have hpassed : Step.all ((metadata.lookups 2).take 6) faulty = (.ok (), faulty) := rfl
    have hlost : ((metadata.scale 2).silent faulty).1 = .error (.driver "lost") := rfl
    have hfailure := Metadata.FirstFailure.column hcount hindex hread horder hpassed hlost
    obtain ⟨-, h⟩ | ⟨hpolicy, -⟩ := hfailed _ _ hfailure
    · exact h
    · cases hpolicy

end Converter

end RowCast

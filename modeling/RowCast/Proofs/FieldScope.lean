import RowCast.Proofs.Accounting
import RowCast.Proofs.ErrorClasses
import RowCast.Proofs.NullIndicator

/-!
# Errors stay within their fields

A row goes on after whatever befalls one of its columns, and reports it. What it goes on after does
concern one field only, as long as the data source fails for reasons of its own: a lookup or a read
that is refused, a large object past the limit, a value that its field does not accept. Tables fail
for no other reasons, whatever their cells hold, and neither do tables with faults.
-/

namespace RowCast

/-- The classes of the errors that concern one field only. -/
def fieldClasses : List ErrorClass :=
  [.driverAccess, .largeObject, .schema]

/-- An error concerns one field only exactly if it belongs to one of three classes. -/
theorem Error.isFieldScoped_iff {e : Error} :
    e.isFieldScoped = true ↔ e.errorClass ∈ fieldClasses := by
  unfold isFieldScoped
  cases e.errorClass <;> decide

/-- A value is put into a record in vain only because of the schema. -/
theorem Record.errorClass_of_put {record : Record} {name : String} {value : Value} {e : Error}
    (h : record.put name value = .error e) : e.errorClass = .schema := by
  unfold put at h
  split at h
  · next field index _ _ =>
    split at h
    · cases h
    · next hvalid =>
      cases h
      unfold RecordField.validate at hvalid
      split at hvalid
      · split at hvalid <;> cases hvalid
        rfl
      · split at hvalid <;> cases hvalid
        rfl
  · cases h
    rfl

/-- The error that a column is lost with when it is stored, if it is lost. -/
def Record.loss? (record : Record) : ColumnOutcome → Option Error
  | .unreadable e | .failed _ _ e => some e
  | .unsupported => none
  | .extracted name value =>
    match record.put name value with
    | .ok _ => none
    | .error e => some e

/-- What is warned of when a column is stored is the error that it is lost with. -/
theorem Record.warnings_store (record : Record) (index : Nat) (outcome : ColumnOutcome) :
    (warnings (record.store index outcome).2).filterMap Event.cause? =
      (record.loss? outcome).toList := by
  cases outcome with
  | unreadable | unsupported | failed => rfl
  | extracted name value =>
    unfold store loss?
    dsimp only
    cases record.put name value <;> rfl

/-- All that is reported when a column is stored is the error that it is lost with. -/
theorem Record.loss_of_mem_store {record : Record} {index : Nat} {outcome : ColumnOutcome}
    {event : Event} (h : event ∈ (record.store index outcome).2) :
    ∃ e, event.cause? = some e ∧ record.loss? outcome = some e := by
  cases outcome with
  | unsupported => cases h
  | unreadable | failed =>
    cases List.mem_singleton.mp h
    exact ⟨_, rfl, rfl⟩
  | extracted name value =>
    unfold store at h
    dsimp only at h
    cases hput : record.put name value with
    | ok stored =>
      rw [hput] at h
      cases h
    | error e =>
      rw [hput] at h
      cases List.mem_singleton.mp h
      exact ⟨e, rfl, by simp [loss?, hput]⟩

namespace RowSource

variable {σ β χ ξ : Type} {row : RowSource σ β χ ξ} {settings : Settings} {turn : Turn σ}

/--
An error is caught in the turn of a column: the column cannot be identified, it cannot be extracted,
or the record refuses its value.
-/
inductive Caught (row : RowSource σ β χ ξ) (settings : Settings) (turn : Turn σ) :
    Error → Prop where
  | unreadable {e : Error} (h : (row.identify turn.index turn.state).1 = .error e) :
    Caught row settings turn e
  | failed {e : Error} (h : row.extractionIn? settings turn = some (.error e)) :
    Caught row settings turn e
  | rejected {name : String} {value : Value} {e : Error} (hname : row.nameIn? turn = some name)
    (hvalue : row.extractionIn? settings turn = some (.ok (some value)))
    (hput : turn.record.put name value = .error e) : Caught row settings turn e

/-- A column is unreadable in its turn exactly if it cannot be identified. -/
theorem outcomeIn_eq_unreadable_iff {e : Error} : row.outcomeIn settings turn = .unreadable e ↔
    (row.identify turn.index turn.state).1 = .error e := by
  unfold outcomeIn readColumn
  rcases row.identify turn.index turn.state with ⟨cause | ⟨columnType, name⟩, s⟩
  · simp
  · dsimp only
    rcases row.extract turn.index columnType settings s with ⟨cause | _ | value, log, next⟩ <;> simp

/-- A column that extraction answers for turns out by this answer. -/
theorem outcomeIn_of_extraction {answer : Except Error (Option Value)}
    (h : row.extractionIn? settings turn = some answer) :
    ∃ columnType name, row.nameIn? turn = some name ∧
      row.outcomeIn settings turn =
        match answer with
        | .error e => .failed name columnType e
        | .ok none => .unsupported
        | .ok (some value) => .extracted name value := by
  rcases row.turn_cases settings turn with
    ⟨-, -, hnone, -⟩ | ⟨columnType, name, answer', -, hname, hanswer, houtcome⟩
  · rw [hnone] at h
    cases h
  · rw [hanswer] at h
    cases h
    exact ⟨columnType, name, hname, houtcome⟩

/-- What is caught in a turn is the error that its column is lost with when it is stored. -/
theorem caught_iff_loss {e : Error} : row.Caught settings turn e ↔
    turn.record.loss? (row.outcomeIn settings turn) = some e := by
  -- Only where the value is extracted does the record decide, by the put that stores it.
  constructor
  · intro h
    cases h with
    | unreadable h =>
      rw [outcomeIn_eq_unreadable_iff.mpr h]
      rfl
    | failed h =>
      obtain ⟨columnType, name, -, houtcome⟩ := outcomeIn_of_extraction h
      rw [houtcome]
      rfl
    | rejected hname hvalue hput =>
      obtain ⟨columnType, name, hname', houtcome⟩ := outcomeIn_of_extraction hvalue
      rw [hname] at hname'
      cases hname'
      simp [houtcome, Record.loss?, hput]
  · intro h
    rcases row.turn_cases settings turn with
      ⟨-, -, -, cause, houtcome⟩ | ⟨columnType, name, answer, -, hname, hanswer, houtcome⟩
    · rw [houtcome] at h
      cases h
      exact .unreadable (outcomeIn_eq_unreadable_iff.mp houtcome)
    · rw [houtcome] at h
      rcases answer with cause | _ | value
      · cases h
        exact .failed hanswer
      · cases h
      · cases hput : turn.record.put name value with
        | ok stored => simp [Record.loss?, hput] at h
        | error cause =>
          simp only [Record.loss?, hput, Option.some.injEq] at h
          exact .rejected hname hanswer (h ▸ hput)

/-- The warnings of a turn tell of what is caught in it, and of nothing else. -/
theorem caught_iff_warned {e : Error} : row.Caught settings turn e ↔
    e ∈ (warnings (row.reportIn settings turn)).filterMap Event.cause? := by
  rw [caught_iff_loss, warnings_reportIn_eq, Record.warnings_store, Option.mem_toList]

/-- A row that can count its columns reports what each of them reports in its turn. -/
theorem toRecord_log {schema : Schema} {s : σ} {count : Nat}
    (hcount : (row.columnCount s).1 = .ok count) :
    (row.toRecord schema settings s).2.1 =
      (row.turns settings (List.range count) (.empty schema) (row.columnCount s).2).flatMap
        (row.reportIn settings) := by
  rw [toRecord_of_count hcount]
  exact storeColumns_log ..

namespace OnlyDriverFailures

/-- What is caught in a turn is an error of one field. -/
theorem caught (h : row.OnlyDriverFailures) {e : Error} (hcaught : row.Caught settings turn e) :
    e.errorClass ∈ fieldClasses := by
  cases hcaught with
  | unreadable hfailed =>
    rw [List.mem_singleton.mp (h.identify turn.index turn.state e hfailed)]
    decide
  | failed hfailed =>
    unfold extractionIn? at hfailed
    split at hfailed
    · next columnType _ s _ =>
      have hclass := (h.extract turn.index columnType settings s).1 e (Option.some.inj hfailed)
      exact List.mem_append_left [ErrorClass.schema] hclass
    · cases hfailed
  | rejected _ _ hput =>
    rw [Record.errorClass_of_put hput]
    decide

/-- What reading a column reports are releases that the data source refuses. -/
theorem readColumn_log (h : row.OnlyDriverFailures) (settings : Settings) (index : Nat) (s : σ) :
    ∀ event ∈ (row.readColumn settings index s).2.1,
      ∃ e, event.cause? = some e ∧ e.errorClass ∈ extractionClasses := by
  unfold readColumn
  split
  · intro event hevent
    cases hevent
  · next columnType field t _ =>
    have hlog := (h.extract index columnType settings t).2
    split <;> simp_all

/-- What is reported in a turn is an error of one field. -/
theorem reported (h : row.OnlyDriverFailures) {event : Event}
    (hevent : event ∈ row.reportIn settings turn) :
    ∃ e, event.cause? = some e ∧ e.errorClass ∈ fieldClasses := by
  rcases List.mem_append.mp hevent with hread | hstored
  · obtain ⟨e, hcause, hclass⟩ := h.readColumn_log settings turn.index turn.state event hread
    exact ⟨e, hcause, List.mem_append_left [ErrorClass.schema] hclass⟩
  · obtain ⟨e, hcause, hloss⟩ := Record.loss_of_mem_store hstored
    exact ⟨e, hcause, h.caught (caught_iff_loss.mpr hloss)⟩

/-- A row fails only because the data source refuses the number of columns. -/
theorem toRecord_error (h : row.OnlyDriverFailures) {schema : Schema} {s : σ} {e : Error}
    (he : (row.toRecord schema settings s).1 = .error e) :
    (row.columnCount s).1 = .error e ∧ e.errorClass = .driverAccess := by
  cases hcount : (row.columnCount s).1 with
  | ok count =>
    rw [toRecord_of_count hcount] at he
    cases he
  | error cause =>
    rw [toRecord_of_count_error hcount] at he
    cases he
    exact ⟨rfl, List.mem_singleton.mp (h.columnCount s _ hcount)⟩

/-- All that a row reports are errors of one field. -/
theorem toRecord_reported (h : row.OnlyDriverFailures) {schema : Schema} {s : σ} {event : Event}
    (hevent : event ∈ (row.toRecord schema settings s).2.1) :
    ∃ e, event.cause? = some e ∧ e.errorClass ∈ fieldClasses := by
  cases hcount : (row.columnCount s).1 with
  | error cause =>
    rw [toRecord_of_count_error hcount] at hevent
    cases hevent
  | ok count =>
    rw [toRecord_log hcount] at hevent
    obtain ⟨turn, -, hreported⟩ := List.mem_flatMap.mp hevent
    exact h.reported hreported

end OnlyDriverFailures

end RowSource

/-- An answer, or a refusal of the data source. -/
def AnsweredOrRefused {α : Type} (x : Except Error α) : Prop :=
  ∀ e, x = .error e → e.errorClass = .driverAccess

namespace AnsweredOrRefused

variable {α β : Type} {x : Except Error α}

/-- What is done with an answer does not add refusals. -/
theorem map (h : AnsweredOrRefused x) (f : α → β) : AnsweredOrRefused (x.map f) := by
  intro e he
  cases x with
  | error cause =>
    cases he
    exact h _ rfl
  | ok a => cases he

/-- Where the rest answers or is refused, so is the whole. -/
theorem bind (h : AnsweredOrRefused x) {f : α → Except Error β}
    (hf : ∀ a, AnsweredOrRefused (f a)) : AnsweredOrRefused (x >>= f) := by
  intro e he
  cases x with
  | error cause =>
    cases he
    exact h _ rfl
  | ok a => exact hf a e he

end AnsweredOrRefused

namespace ResultTable

/-- The integer in a cell is answered or refused. -/
theorem integerOf_refused (cell : Cell) : AnsweredOrRefused (integerOf cell) := by
  intro e
  fun_cases integerOf cell <;> rintro ⟨⟩ <;> rfl

/-- The integer in a cell is answered or refused also where it must fit a width. -/
theorem narrowOf_refused (width : IntegerWidth) (target : String) (cell : Cell) :
    AnsweredOrRefused (narrowOf width target cell) := by
  refine (integerOf_refused cell).bind fun n e he => ?_
  split at he <;> cases he
  rfl

/-- The float in a cell is answered or refused. -/
theorem floatOf_refused (cell : Cell) : AnsweredOrRefused (floatOf cell) := by
  intro e
  fun_cases floatOf cell <;> rintro ⟨⟩ <;> rfl

/-- A cell of the current row is there, or it is refused. -/
theorem cell_refused (t : ResultTable) (index : Nat) : AnsweredOrRefused (t.cell index) := by
  intro e
  fun_cases cell t index <;> rintro ⟨⟩ <;> rfl

end ResultTable

namespace Getter

open ResultTable

/-- Whatever a cell holds, every read of it is answered or refused. -/
theorem interpret_refused (g : Getter) (cell : Cell) : AnsweredOrRefused (g.interpret cell) := by
  cases g with
  | int8 | int16 | int32 => exact (narrowOf_refused _ _ cell).map _
  | int64 => exact (integerOf_refused cell).map _
  | float32 => exact (floatOf_refused cell).map _
  | float64 => exact floatOf_refused cell
  | bool =>
    intro e
    change boolOf cell = .error e → _
    fun_cases boolOf cell <;> rintro ⟨⟩ <;> rfl
  | decimal scale =>
    intro e
    change decimalOf scale cell = .error e → _
    fun_cases decimalOf scale cell <;> rintro ⟨⟩ <;> rfl
  | url =>
    intro e
    change urlOf cell = .error e → _
    fun_cases urlOf cell <;> rintro ⟨⟩ <;> rfl
  | string | nationalString | bytes | date | time | timestamp | blob | clob | nationalClob | xml =>
    -- Each of these tells the cells that it can answer for, and refuses the others in one case.
    intro e he
    simp only [interpret, stringOf, bytesOf, dateOf, timeOf, timestampOf, blobOf, clobOf, xmlOf]
      at he
    split at he <;> cases he
    rfl

/-- A read of a table fails only because the table refuses it. -/
theorem get_onlyDriverFailures (g : Getter) (index : Nat) : (g.get index).OnlyDriverFailures := by
  rw [get_eq_fetch]
  intro t e he
  unfold fetch at he
  split at he
  · next cell _ => exact List.mem_singleton.mpr (g.interpret_refused cell e he)
  · next hcell =>
    cases he
    exact List.mem_singleton.mpr (cell_refused t index _ hcell)

end Getter

namespace ResultTable

/-- A lookup of a table fails only because the table refuses it. -/
theorem describe_onlyDriverFailures {α : Type} (view : Column → α) (index : Nat) :
    (describe view index).OnlyDriverFailures := by
  intro t e
  fun_cases describe view index t <;> rintro ⟨⟩
  exact List.mem_singleton.mpr rfl

end ResultTable

namespace TableHandle

variable {υ α : Type}

/-- A look at a handle of a table is refused only after the release of the handle. -/
theorem whileOpen_onlyDriverFailures (use : TableHandle υ → α) :
    (whileOpen use).OnlyDriverFailures := by
  intro s e he
  unfold whileOpen at he
  split at he <;> cases he
  exact List.mem_singleton.mpr rfl

/-- The release of a handle of a table is refused only after its release. -/
theorem free_onlyDriverFailures :
    (free : Step (TableHandle υ × ResultTable) Unit).OnlyDriverFailures := by
  intro s e he
  unfold free at he
  split at he <;> cases he
  exact List.mem_singleton.mpr rfl

end TableHandle

/-- A table fails only because it refuses something, whatever its cells hold. -/
theorem ResultTable.rowSource_onlyDriverFailures : rowSource.OnlyDriverFailures where
  columnCount t e he := by cases he
  columnName := describe_onlyDriverFailures _
  columnLabel := describe_onlyDriverFailures _
  columnType := describe_onlyDriverFailures _
  nullability := describe_onlyDriverFailures _
  isSigned := describe_onlyDriverFailures _
  precision := describe_onlyDriverFailures _
  scale := describe_onlyDriverFailures _
  getBool := Getter.bool.get_onlyDriverFailures
  getInt8 := Getter.int8.get_onlyDriverFailures
  getInt16 := Getter.int16.get_onlyDriverFailures
  getInt32 := Getter.int32.get_onlyDriverFailures
  getInt64 := Getter.int64.get_onlyDriverFailures
  getFloat32 := Getter.float32.get_onlyDriverFailures
  getFloat64 := Getter.float64.get_onlyDriverFailures
  getDecimal index scale := (Getter.decimal scale).get_onlyDriverFailures index
  getString := Getter.string.get_onlyDriverFailures
  getNationalString := Getter.nationalString.get_onlyDriverFailures
  getBytes := Getter.bytes.get_onlyDriverFailures
  getDate := Getter.date.get_onlyDriverFailures
  getTime := Getter.time.get_onlyDriverFailures
  getTimestamp := Getter.timestamp.get_onlyDriverFailures
  getUrl := Getter.url.get_onlyDriverFailures
  openBlob := Getter.blob.get_onlyDriverFailures
  openClob := Getter.clob.get_onlyDriverFailures
  openNationalClob := Getter.nationalClob.get_onlyDriverFailures
  openXml := Getter.xml.get_onlyDriverFailures
  blob :=
    { length := TableHandle.whileOpen_onlyDriverFailures _
      read := fun _ _ => TableHandle.whileOpen_onlyDriverFailures _
      free := TableHandle.free_onlyDriverFailures }
  clob :=
    { length := TableHandle.whileOpen_onlyDriverFailures _
      read := fun _ _ => TableHandle.whileOpen_onlyDriverFailures _
      free := TableHandle.free_onlyDriverFailures }
  xml :=
    { text := TableHandle.whileOpen_onlyDriverFailures _
      free := TableHandle.free_onlyDriverFailures }

namespace Faulty

variable {σ η α β χ ξ κ : Type}

/-- A fault is a refusal, so a call that may be at fault fails only by refusals. -/
theorem guarded_onlyDriverFailures {step : Step σ α} (h : step.OnlyDriverFailures) (call : Call)
    (index : Nat) : (guarded call index step).OnlyDriverFailures := by
  intro s e he
  unfold guarded at he
  split at he
  · cases he
    exact List.mem_singleton.mpr rfl
  · exact h s.source e he

/-- A call on a handle that may be at fault fails only by refusals. -/
theorem guardedHandle_onlyDriverFailures {step : Step (η × σ) α} (h : step.OnlyDriverFailures)
    (call : Call) : (guardedHandle call step).OnlyDriverFailures := by
  intro s e he
  unfold guardedHandle at he
  dsimp only at he
  split at he
  · cases he
    exact List.mem_singleton.mpr rfl
  · exact h (s.1.2, s.2.source) e he

/-- A handle that may be at fault is opened unless a call is refused. -/
theorem opened_onlyDriverFailures {step : Step σ (Option η)} (h : step.OnlyDriverFailures)
    (call : Call) (index : Nat) : (opened call index step).OnlyDriverFailures :=
  guarded_onlyDriverFailures (h.map _) call index

/-- The calls on a large object that may be at fault fail only by refusals. -/
theorem largeObject_onlyDriverFailures {object : LargeObject σ η κ}
    (h : object.OnlyDriverFailures) : (lifting.largeObject object).OnlyDriverFailures where
  length := guardedHandle_onlyDriverFailures h.length _
  read offset count := guardedHandle_onlyDriverFailures (h.read offset count) _
  free := guardedHandle_onlyDriverFailures h.free _

/-- A source with faults fails only by refusals, as the source itself does. -/
theorem rowSource_onlyDriverFailures {row : RowSource σ β χ ξ} (h : row.OnlyDriverFailures) :
    (rowSource row).OnlyDriverFailures where
  columnCount := guarded_onlyDriverFailures h.columnCount _ _
  columnName index := guarded_onlyDriverFailures (h.columnName index) _ _
  columnLabel index := guarded_onlyDriverFailures (h.columnLabel index) _ _
  columnType index := guarded_onlyDriverFailures (h.columnType index) _ _
  nullability index := guarded_onlyDriverFailures (h.nullability index) _ _
  isSigned index := guarded_onlyDriverFailures (h.isSigned index) _ _
  precision index := guarded_onlyDriverFailures (h.precision index) _ _
  scale index := guarded_onlyDriverFailures (h.scale index) _ _
  getBool index := guarded_onlyDriverFailures (h.getBool index) _ _
  getInt8 index := guarded_onlyDriverFailures (h.getInt8 index) _ _
  getInt16 index := guarded_onlyDriverFailures (h.getInt16 index) _ _
  getInt32 index := guarded_onlyDriverFailures (h.getInt32 index) _ _
  getInt64 index := guarded_onlyDriverFailures (h.getInt64 index) _ _
  getFloat32 index := guarded_onlyDriverFailures (h.getFloat32 index) _ _
  getFloat64 index := guarded_onlyDriverFailures (h.getFloat64 index) _ _
  getDecimal index scale := guarded_onlyDriverFailures (h.getDecimal index scale) _ _
  getString index := guarded_onlyDriverFailures (h.getString index) _ _
  getNationalString index := guarded_onlyDriverFailures (h.getNationalString index) _ _
  getBytes index := guarded_onlyDriverFailures (h.getBytes index) _ _
  getDate index := guarded_onlyDriverFailures (h.getDate index) _ _
  getTime index := guarded_onlyDriverFailures (h.getTime index) _ _
  getTimestamp index := guarded_onlyDriverFailures (h.getTimestamp index) _ _
  getUrl index := guarded_onlyDriverFailures (h.getUrl index) _ _
  openBlob index := opened_onlyDriverFailures (h.openBlob index) _ _
  openClob index := opened_onlyDriverFailures (h.openClob index) _ _
  openNationalClob index := opened_onlyDriverFailures (h.openNationalClob index) _ _
  openXml index := opened_onlyDriverFailures (h.openXml index) _ _
  blob := largeObject_onlyDriverFailures h.blob
  clob := largeObject_onlyDriverFailures h.clob
  xml :=
    { text := guardedHandle_onlyDriverFailures h.xml.text _
      free := guardedHandle_onlyDriverFailures h.xml.free _ }

end Faulty

/--
What a conversion goes on after concerns one field only. Of a source that fails for reasons of its
own, a row that fails does so because the number of columns is refused. All that it reports tells of
errors of one field, and the warnings of a turn tell of what is caught in it: a lookup that is
refused, a read that is refused or a large object past the limit, or a value that the record
refuses. A schema is given up only because a lookup is refused or, by the strict policy, a default.
Tables are such sources, and so are tables with faults.
-/
theorem errors_stay_in_scope {σ τ β χ ξ : Type} :
    (∀ row : RowSource σ β χ ξ, row.OnlyDriverFailures →
      ∀ (schema : Schema) (settings : Settings) (s : σ),
        (∀ e, (row.toRecord schema settings s).1 = .error e →
          (row.columnCount s).1 = .error e ∧ e.errorClass = .driverAccess) ∧
        (∀ event ∈ (row.toRecord schema settings s).2.1,
          ∃ e, event.cause? = some e ∧ e.isFieldScoped = true) ∧
        ∀ count, (row.columnCount s).1 = .ok count →
          let turns := row.turns settings (List.range count) (.empty schema) (row.columnCount s).2
          (row.toRecord schema settings s).2.1 = turns.flatMap (row.reportIn settings) ∧
          ∀ turn ∈ turns, ∀ e,
            (row.Caught settings turn e ↔
              e ∈ (warnings (row.reportIn settings turn)).filterMap Event.cause?) ∧
            (row.Caught settings turn e →
              e.isFieldScoped = true ∧
                e.errorClass ∈ [.driverAccess, .largeObject, .schema])) ∧
    (∀ metadata : Metadata τ, metadata.OnlyDriverFailures →
      ∀ (table : String) (defaults : Defaults) (settings : Settings) (s : τ) (e : Error),
        (metadata.toSchema table defaults settings s).1 = .error e →
          e.errorClass = .driverAccess ∨
            settings.defaultPolicy = .fail ∧ e.errorClass = .defaultValue) ∧
    ResultTable.rowSource.OnlyDriverFailures ∧
    (Faulty.rowSource ResultTable.rowSource).OnlyDriverFailures := by
  refine ⟨fun row hrow schema settings s => ⟨fun e he => hrow.toRecord_error he,
      fun event hevent => ?_, fun count hcount => ⟨RowSource.toRecord_log hcount, ?_⟩⟩,
    fun metadata hmetadata table defaults settings s e he => hmetadata.toSchema he,
    ResultTable.rowSource_onlyDriverFailures,
    Faulty.rowSource_onlyDriverFailures ResultTable.rowSource_onlyDriverFailures⟩
  · obtain ⟨e, hcause, hclass⟩ := hrow.toRecord_reported hevent
    exact ⟨e, hcause, Error.isFieldScoped_iff.mpr hclass⟩
  · intro turn _ e
    refine ⟨RowSource.caught_iff_warned, fun hcaught => ?_⟩
    have hclass := hrow.caught hcaught
    exact ⟨Error.isFieldScoped_iff.mpr hclass, hclass⟩

/--
Of four columns one cannot be identified, one holds a large object past the limit, one fails and one
is NULL in a required field: all are caught. The schema is given up for its default.
-/
theorem errors_stay_in_scope_of_four_losses :
    let columns : List Column :=
      [⟨"dark", "", .varChar, .unknown, true, 0, 0⟩, ⟨"data", "", .blob, .unknown, true, 0, 0⟩,
        ⟨"bad", "", .integer, .unknown, true, 0, 0⟩, ⟨"id", "", .integer, .noNulls, true, 0, 0⟩]
    let table : ResultTable :=
      ⟨columns, [[.null, .ofBytes [1, 2], .failing "gone", .null]], some 0, false, 0⟩
    let s : Faulty ResultTable := ⟨table, [⟨.columnLabel, some 0, "lost", 0⟩], none⟩
    let row := Faulty.rowSource ResultTable.rowSource
    let schema : Schema := ⟨"t", [⟨"id", .int32, false, none⟩]⟩
    let settings : Settings := { Settings.standard with maxLobLength := 1 }
    let log := (row.toRecord schema settings s).2.1
    row.OnlyDriverFailures ∧
      (log.filterMap Event.cause?).map Error.errorClass =
        [.driverAccess, .largeObject, .driverAccess, .schema] ∧
      (∀ event ∈ log, ∃ e, event.cause? = some e ∧ e.isFieldScoped = true) ∧
      ∃ e, (ResultTable.metadata.toSchema "t" (fun _ => some "soon") settings table).1 = .error e ∧
        (e.errorClass = .driverAccess ∨
          settings.defaultPolicy = .fail ∧ e.errorClass = .defaultValue) := by
  intro columns table s row schema settings log
  obtain ⟨hrows, hschemas, htable, hfaulty⟩ :=
    @errors_stay_in_scope (Faulty ResultTable) ResultTable (Nat × TableHandle UInt8)
      (Nat × TableHandle Char) (Nat × TableHandle Char)
  obtain ⟨-, hreported, -⟩ := hrows row hfaulty schema settings s
  have hfailed : ∃ e, (ResultTable.metadata.toSchema "t" (fun _ => some "soon") settings
      table).1 = .error e := ⟨_, rfl⟩
  obtain ⟨e, he⟩ := hfailed
  exact ⟨hfaulty, by decide, hreported, e, he, hschemas _ htable.toOnlyDriverFailures _ _ _ _ e he⟩

end RowCast

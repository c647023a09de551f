import RowCast.Proofs.CurrentTime
import RowCast.Proofs.Extraction

/-!
# Which errors a conversion meets

An error belongs to the class of its cause. What a composed step can fail with is what its parts can
fail with, so the classes of the errors of a conversion follow from those of its source. A source
whose calls and handles fail only for reasons of its own leaves two more ways for a conversion to
fail: a large object past the limit, and a default that the strict policy refuses.
-/

namespace RowCast

/-- The error that an event tells of. -/
def Event.cause? : Event → Option Error
  | .unsupportedColumn .. | .builtSchema .. => none
  | .droppedDefault _ _ cause | .unreadableColumn _ cause | .rejectedValue _ cause
  | .failedExtraction _ _ cause | .failedRelease cause => some cause

section

variable {σ η κ α β : Type} {classes : List ErrorClass}

/-- In every state, a step fails with errors of the given classes only. -/
def Step.FailsIn (classes : List ErrorClass) (x : Step σ α) : Prop :=
  ∀ s e, (x s).1 = .error e → e.errorClass ∈ classes

/-- In every state, a computation fails with errors of the given classes, and reports only such. -/
def Traced.FailsIn (classes : List ErrorClass) (x : Traced σ α) : Prop :=
  ∀ s, (∀ e, (x s).1 = .error e → e.errorClass ∈ classes) ∧
    ∀ event ∈ (x s).2.1, ∃ cause, event.cause? = some cause ∧ cause.errorClass ∈ classes

/-- A step fails only because the data source refuses something. -/
abbrev Step.OnlyDriverFailures (x : Step σ α) : Prop :=
  x.FailsIn [.driverAccess]

namespace Step.FailsIn

/-- A step that always answers never fails. -/
theorem pure (a : α) : Step.FailsIn classes (Pure.pure a : Step σ α) := by
  intro s e h
  cases h

/-- A composed step fails as one of its parts does. -/
theorem bind {x : Step σ α} {f : α → Step σ β} (hx : x.FailsIn classes)
    (hf : ∀ a, (f a).FailsIn classes) : Step.FailsIn classes (x >>= f) := by
  intro s e h
  cases hanswer : (x s).1 with
  | error cause =>
    rw [Step.bind_of_error hanswer] at h
    cases h
    exact hx s e hanswer
  | ok a =>
    rw [Step.bind_of_ok hanswer] at h
    exact hf a _ e h

/-- What is done with an answer does not add failures. -/
theorem map {x : Step σ α} (hx : x.FailsIn classes) (f : α → β) : (x.map f).FailsIn classes := by
  intro s e h
  rw [Step.map_apply] at h
  cases hanswer : (x s).1 with
  | error cause =>
    rw [hanswer] at h
    cases h
    exact hx s e hanswer
  | ok a =>
    rw [hanswer] at h
    cases h

/-- A step that fails only in some classes fails only in those of any wider list. -/
theorem mono {x : Step σ α} {wider : List ErrorClass} (hx : x.FailsIn classes)
    (h : classes ⊆ wider) : x.FailsIn wider :=
  fun s e he => h (hx s e he)

/-- A plain step reports nothing, so only its own failure counts. -/
theorem lift {x : Step σ α} (hx : x.FailsIn classes) :
    Traced.FailsIn classes (liftM x : Traced σ α) :=
  fun s => ⟨hx s, fun _ h => absurd h List.not_mem_nil⟩

end Step.FailsIn

/-- A computation that always answers and reports nothing never fails. -/
theorem Traced.FailsIn.pure (a : α) : Traced.FailsIn classes (Pure.pure a : Traced σ α) :=
  (Step.FailsIn.pure a).lift

/-- A composed computation fails and reports as its parts do. -/
theorem Traced.FailsIn.bind {x : Traced σ α} {f : α → Traced σ β} (hx : x.FailsIn classes)
    (hf : ∀ a, (f a).FailsIn classes) : Traced.FailsIn classes (x >>= f) := by
  intro s
  obtain ⟨hfailed, hreported⟩ := hx s
  cases hanswer : (x s).1 with
  | error cause =>
    rw [Traced.bind_of_error hanswer]
    refine ⟨fun e h => ?_, hreported⟩
    cases h
    exact hfailed cause hanswer
  | ok a =>
    rw [Traced.bind_of_ok hanswer]
    obtain ⟨hlater, hmore⟩ := hf a (x s).2.2
    exact ⟨hlater, fun event h => (List.mem_append.mp h).elim (hreported event) (hmore event)⟩

/-- In a scope with a handle, the use of the handle fails, and its release is reported. -/
theorem releasing_failsIn {free : Step (η × σ) Unit} {use : Step (η × σ) α}
    (hfree : free.FailsIn classes) (huse : use.FailsIn classes) (handle : η) :
    (releasing free handle use).FailsIn classes := by
  intro s
  unfold releasing
  dsimp only
  split
  · exact ⟨huse _, fun _ h => absurd h List.not_mem_nil⟩
  · next cause _ _ hreleased =>
    refine ⟨huse _, fun event h => ?_⟩
    cases List.mem_singleton.mp h
    exact ⟨cause, rfl, hfree _ cause (congrArg Prod.fst hreleased)⟩

/-- What is read behind a handle fails as opening, using or releasing the handle does. -/
theorem drainBy_failsIn {free : Step (η × σ) Unit} {use : Step (η × σ) κ} {toValue : κ → Value}
    {acquire : Step σ (Option η)} (hfree : free.FailsIn classes) (huse : use.FailsIn classes)
    (hacquire : acquire.FailsIn classes) :
    (drainBy free use toValue acquire).FailsIn classes := by
  refine hacquire.lift.bind fun handle? => ?_
  cases handle? with
  | none => exact .pure _
  | some handle => exact (releasing_failsIn hfree huse handle).bind fun _ => .pure _

end

section

variable {σ η κ : Type}

/-- All lookups of metadata fail only because the data source refuses them. -/
structure Metadata.OnlyDriverFailures (metadata : Metadata σ) : Prop where
  columnCount : metadata.columnCount.OnlyDriverFailures
  columnName (index : Nat) : (metadata.columnName index).OnlyDriverFailures
  columnLabel (index : Nat) : (metadata.columnLabel index).OnlyDriverFailures
  columnType (index : Nat) : (metadata.columnType index).OnlyDriverFailures
  nullability (index : Nat) : (metadata.nullability index).OnlyDriverFailures
  isSigned (index : Nat) : (metadata.isSigned index).OnlyDriverFailures
  precision (index : Nat) : (metadata.precision index).OnlyDriverFailures
  scale (index : Nat) : (metadata.scale index).OnlyDriverFailures

/-- All calls on the handle of a large object fail only because the data source refuses them. -/
structure LargeObject.OnlyDriverFailures (object : LargeObject σ η κ) : Prop where
  length : object.length.OnlyDriverFailures
  read (offset count : Nat) : (object.read offset count).OnlyDriverFailures
  free : object.free.OnlyDriverFailures

/-- All calls on the handle of a document fail only because the data source refuses them. -/
structure XmlDocument.OnlyDriverFailures (document : XmlDocument σ η) : Prop where
  text : document.text.OnlyDriverFailures
  free : document.free.OnlyDriverFailures

end

/--
All lookups and reads of a row, and all calls on the handles that it hands out, fail only because
the data source refuses them.
-/
structure RowSource.OnlyDriverFailures {σ β χ ξ : Type} (row : RowSource σ β χ ξ) : Prop
    extends Metadata.OnlyDriverFailures row.toMetadata where
  getBool (index : Nat) : (row.getBool index).OnlyDriverFailures
  getInt8 (index : Nat) : (row.getInt8 index).OnlyDriverFailures
  getInt16 (index : Nat) : (row.getInt16 index).OnlyDriverFailures
  getInt32 (index : Nat) : (row.getInt32 index).OnlyDriverFailures
  getInt64 (index : Nat) : (row.getInt64 index).OnlyDriverFailures
  getFloat32 (index : Nat) : (row.getFloat32 index).OnlyDriverFailures
  getFloat64 (index : Nat) : (row.getFloat64 index).OnlyDriverFailures
  getDecimal (index : Nat) (scale : Int32) : (row.getDecimal index scale).OnlyDriverFailures
  getString (index : Nat) : (row.getString index).OnlyDriverFailures
  getNationalString (index : Nat) : (row.getNationalString index).OnlyDriverFailures
  getBytes (index : Nat) : (row.getBytes index).OnlyDriverFailures
  getDate (index : Nat) : (row.getDate index).OnlyDriverFailures
  getTime (index : Nat) : (row.getTime index).OnlyDriverFailures
  getTimestamp (index : Nat) : (row.getTimestamp index).OnlyDriverFailures
  getUrl (index : Nat) : (row.getUrl index).OnlyDriverFailures
  openBlob (index : Nat) : (row.openBlob index).OnlyDriverFailures
  openClob (index : Nat) : (row.openClob index).OnlyDriverFailures
  openNationalClob (index : Nat) : (row.openNationalClob index).OnlyDriverFailures
  openXml (index : Nat) : (row.openXml index).OnlyDriverFailures
  blob : row.blob.OnlyDriverFailures
  clob : row.clob.OnlyDriverFailures
  xml : row.xml.OnlyDriverFailures

/-- What the strict policy refuses is a default. -/
theorem Column.RefusesDefault.errorClass {defaults : Defaults} {mapNumerics : Bool}
    {column : Column} {e : Error} (h : column.RefusesDefault defaults mapNumerics e) :
    e.errorClass = .defaultValue := by
  obtain ⟨plan, literal, cause, -, -, -, -, rfl⟩ := h
  rfl

namespace Metadata

variable {σ : Type} {metadata : Metadata σ}

namespace OnlyDriverFailures

/-- A column cannot be identified only because a lookup is refused. -/
theorem identify (h : metadata.OnlyDriverFailures) (index : Nat) :
    (metadata.identify index).OnlyDriverFailures :=
  (h.columnType index).bind fun _ => (h.columnLabel index).bind fun _ =>
    (h.columnName index).bind fun _ => .pure _

/-- The plan of a column is not known only because a lookup is refused. -/
theorem plan? (h : metadata.OnlyDriverFailures) (index : Nat) (columnType : ColumnType)
    (mapNumerics : Bool) : (metadata.plan? index columnType mapNumerics).OnlyDriverFailures :=
  (h.isSigned index).bind fun _ => (h.precision index).bind fun _ =>
    (h.scale index).bind fun _ => .pure _

/-- Each of the lookups of a column is one that the data source may refuse. -/
theorem lookups (h : metadata.OnlyDriverFailures) (index : Nat) :
    ∀ lookup ∈ metadata.lookups index, lookup.OnlyDriverFailures := by
  simp only [Metadata.lookups, List.forall_mem_cons]
  exact ⟨(h.columnName index).map _, (h.columnLabel index).map _, (h.columnType index).map _,
    (h.nullability index).map _, (h.isSigned index).map _, (h.precision index).map _,
    (h.scale index).map _, fun _ hlookup => absurd hlookup List.not_mem_nil⟩

/-- The first lookup that fails is refused by the data source. -/
theorem firstFailure (h : metadata.OnlyDriverFailures) {s : σ} {read : List Column} {e : Error}
    (hfailure : metadata.FirstFailure s read e) : e.errorClass ∈ [ErrorClass.driverAccess] := by
  cases hfailure with
  | columnCount hfailed => exact h.columnCount s e hfailed
  | @column count index read passed missed lookup counted reached moved e hcount hindex hread
      horder hpassed hfailed =>
    have hlookup : lookup ∈ metadata.lookups index := by
      rw [horder]
      exact List.mem_append_right _ List.mem_cons_self
    exact h.lookups index lookup hlookup moved e hfailed

end OnlyDriverFailures

/-- A schema is not built because a lookup is refused, or because of a default by strict policy. -/
theorem OnlyDriverFailures.toSchema (h : metadata.OnlyDriverFailures) {table : String}
    {defaults : Defaults} {settings : Settings} {s : σ} {e : Error}
    (hfailed : (metadata.toSchema table defaults settings s).1 = .error e) :
    e.errorClass = .driverAccess ∨
      settings.defaultPolicy = .fail ∧ e.errorClass = .defaultValue := by
  rcases toSchema_error hfailed with ⟨read, hfailure⟩ | ⟨hpolicy, columns, -, column, -, hrefused⟩
  · exact .inl (List.mem_singleton.mp (h.firstFailure hfailure))
  · exact .inr ⟨hpolicy, hrefused.errorClass⟩

end Metadata

/-- The classes of the errors that extraction meets. -/
def extractionClasses : List ErrorClass :=
  [.driverAccess, .largeObject]

/-- What the data source refuses is among the errors that extraction meets. -/
theorem Step.FailsIn.inExtraction {σ α : Type} {x : Step σ α} (h : x.OnlyDriverFailures) :
    x.FailsIn extractionClasses :=
  h.mono fun _ hclass => List.mem_cons.mpr (.inl (List.mem_singleton.mp hclass))

section

variable {σ η κ : Type}

/-- A large object is read whole unless a call is refused or the object is too large. -/
theorem LargeObject.OnlyDriverFailures.readWhole {object : LargeObject σ η κ}
    (h : object.OnlyDriverFailures) (limit : UInt64) :
    (object.readWhole limit).FailsIn extractionClasses := by
  refine h.length.inExtraction.bind fun length => ?_
  split
  · intro s e hfailed
    cases hfailed
    exact List.mem_cons_of_mem _ List.mem_cons_self
  · exact (h.read 0 length).inExtraction

/-- A large object gives its value unless a call is refused or the object is too large. -/
theorem LargeObject.OnlyDriverFailures.drain {object : LargeObject σ η κ}
    (h : object.OnlyDriverFailures) (toValue : κ → Value) (limit : UInt64)
    {acquire : Step σ (Option η)} (hacquire : acquire.OnlyDriverFailures) :
    (object.drain toValue limit acquire).FailsIn extractionClasses := by
  rw [LargeObject.drain_eq]
  exact drainBy_failsIn h.free.inExtraction (h.readWhole limit) hacquire.inExtraction

/-- A document is read unless a call is refused. -/
theorem XmlDocument.OnlyDriverFailures.drain {document : XmlDocument σ η}
    (h : document.OnlyDriverFailures) {acquire : Step σ (Option η)}
    (hacquire : acquire.OnlyDriverFailures) :
    (document.drain acquire).FailsIn extractionClasses := by
  rw [XmlDocument.drain_eq]
  exact drainBy_failsIn h.free.inExtraction h.text.inExtraction hacquire.inExtraction

end

namespace RowSource.OnlyDriverFailures

variable {σ β χ ξ : Type} {row : RowSource σ β χ ξ}

/-- A column is not read by a plan because a call is refused, or because its value is too large. -/
theorem readBy (h : row.OnlyDriverFailures) (plan : ColumnPlan) (index : Nat) (limit : UInt64) :
    (row.readBy plan index limit).FailsIn extractionClasses := by
  have hplain {α : Type} {x : Step σ α} (hx : x.OnlyDriverFailures) (toValue : α → Value) :
      (Traced.ofStep (x.map toValue)).FailsIn extractionClasses :=
    (hx.map toValue).inExtraction.lift
  cases plan with
  | boolean => exact hplain (h.getBool index) _
  | integer width =>
    cases width with
    | int8 => exact hplain (h.getInt8 index) _
    | int16 => exact hplain (h.getInt16 index) _
    | int32 => exact hplain (h.getInt32 index) _
    | int64 => exact hplain (h.getInt64 index) _
  | float32 => exact hplain (h.getFloat32 index) _
  | float64 => exact hplain (h.getFloat64 index) _
  | decimal scale => exact hplain (h.getDecimal index scale) _
  | text source =>
    cases source with
    | standard => exact hplain (h.getString index) _
    | national => exact hplain (h.getNationalString index) _
    | dataLink => exact hplain (h.getUrl index) _
    | clob => exact h.clob.drain _ limit (h.openClob index)
    | nClob => exact h.clob.drain _ limit (h.openNationalClob index)
    | xml => exact h.xml.drain (h.openXml index)
  | binary source =>
    cases source with
    | standard => exact hplain (h.getBytes index) _
    | blob => exact h.blob.drain _ limit (h.openBlob index)
  | date => exact hplain (h.getDate index) _
  | time => exact hplain (h.getTime index) _
  | timestamp => exact hplain (h.getTimestamp index) _

/-- The null indicator never fails. -/
theorem askNull_failsIn (row : RowSource σ β χ ξ) : row.askNull.FailsIn extractionClasses := by
  intro s e h
  cases h

/-- A column is not extracted because a call is refused, or because its value is too large. -/
theorem extract (h : row.OnlyDriverFailures) (index : Nat) (columnType : ColumnType)
    (settings : Settings) :
    (row.extract index columnType settings).FailsIn extractionClasses := by
  refine (h.plan? index columnType settings.mapNumerics).inExtraction.lift.bind fun plan? => ?_
  cases plan? with
  | none => exact .pure _
  | some plan =>
    refine (h.readBy plan index settings.maxLobLength).bind fun value => ?_
    refine (askNull_failsIn row).lift.bind fun isNull => ?_
    cases isNull <;> exact .pure _

end RowSource.OnlyDriverFailures

end RowCast

import RowCast.Proofs.Description
import RowCast.Proofs.Extraction
import RowCast.Source.Table

/-!
# How cells of tables are read

What a plan makes of a cell, without the state that a read passes through. Reading a cell of a table
answers just that. It leaves the columns, the rows and the position alone, and changes only the null
indicator, which it sets anew before it is asked, and the count of released handles.
-/

namespace RowCast

/-- The column as the metadata of a table describes it: its type is the one of its code. -/
def Column.described (column : Column) : Column :=
  { column with columnType := .ofCode column.columnType.code }

/-- Describing a column keeps its field name. -/
@[simp] theorem Column.described_fieldName (column : Column) :
    column.described.fieldName = column.fieldName := rfl

/-- Describing columns keeps their field names. -/
theorem Column.map_described_fieldName (columns : List Column) :
    (columns.map Column.described).map Column.fieldName = columns.map Column.fieldName := by
  rw [List.map_map]
  rfl

namespace Cell

/-- The bytes that a cell holds, if it is read as a large object of bytes. -/
def largeBytes? : Cell → Option (List UInt8)
  | .blob data _ | .value (.bytes data) => some data
  | _ => none

/-- The text that a cell holds, if it is read as a large object of text. -/
def largeText? : Cell → Option String
  | .clob data _ | .value (.string data) => some data
  | _ => none

/-- The document that a cell holds, if it is read as one. -/
def document? : Cell → Option String
  | .xml text | .value (.string text) => some text
  | _ => none

end Cell

namespace ResultTable

/-- The table with its null indicator set by a cell and some more handles released. -/
def after (t : ResultTable) (cell : Cell) (handles : Nat) : ResultTable :=
  { t with lastNull := decide (cell = .null), released := t.released + handles }

/-- Reading a cell interprets it and sets the null indicator by it. -/
theorem fetch_of_cell {α : Type} {t : ResultTable} {index : Nat} {cell : Cell}
    (h : t.cell index = .ok cell) (interpret : Cell → Except Error α) :
    fetch interpret index t = (interpret cell, t.after cell 0) := by
  simp [fetch, h, after]

/-- A cell that cannot be reached fails the read and leaves the null indicator stale. -/
theorem fetch_of_error {α : Type} {t : ResultTable} {index : Nat} {e : Error}
    (h : t.cell index = .error e) (interpret : Cell → Except Error α) :
    fetch interpret index t = (.error e, t) := by
  simp [fetch, h]

/-- A cell is read where the current row has it, unless every read of it fails. -/
theorem cell_eq_ok_iff {t : ResultTable} {index : Nat} {cell : Cell} :
    t.cell index = .ok cell ↔
      (∃ row, t.currentRow? = some row ∧ row[index]? = some cell) ∧
        ∀ message, cell ≠ .failing message := by
  unfold ResultTable.cell
  cases t.currentRow? with
  | none => simp
  | some row =>
    simp only [Option.some.injEq, exists_eq_left']
    cases hfound : row[index]? with
    | none => simp
    | some found =>
      cases found with
      | failing message =>
        simp only [Option.some.injEq, reduceCtorEq, false_iff]
        rintro ⟨rfl, hcell⟩
        exact hcell message rfl
      | _ =>
        simp only [Except.ok.injEq, Option.some.injEq]
        refine ⟨fun h => ⟨h, fun message => ?_⟩, fun h => h.1⟩
        rw [← h]
        exact nofun

/-- What a read answers is made of a cell that can be read. -/
theorem fetch_eq_ok_iff {α : Type} {t : ResultTable} {index : Nat}
    {interpret : Cell → Except Error α} {a : α} :
    (fetch interpret index t).1 = .ok a ↔
      ∃ cell, t.cell index = .ok cell ∧ interpret cell = .ok a := by
  cases hcell : t.cell index with
  | error e => simp [fetch_of_error hcell]
  | ok cell => simp [fetch_of_cell hcell]

/-- Looking at a column answers as all tables of an invariant have it, and changes nothing. -/
theorem describe_answers {α : Type} {inv : ResultTable → Prop} {index : Nat} {column : Column}
    (hinv : ∀ t, inv t → t.columns[index]? = some column) (view : Column → α) :
    (describe view index).Answers inv (view column) := by
  intro t ht
  simp [describe, hinv t ht, ht]

/-- The metadata of tables with the same columns presents these columns. -/
theorem metadata_presents {inv : ResultTable → Prop} {columns : List Column}
    (hinv : ∀ t, inv t → t.columns = columns) :
    metadata.Presents inv (columns.map Column.described) where
  count t ht := by simp [metadata, hinv t ht, ht]
  describes {index described} h := by
    rw [List.getElem?_map] at h
    obtain ⟨column, hcolumn, rfl⟩ := Option.map_eq_some_iff.mp h
    have hall : ∀ t, inv t → t.columns[index]? = some column := by
      intro t ht
      rw [hinv t ht, hcolumn]
    exact {
      name := describe_answers hall _
      label := describe_answers hall _
      columnType := ⟨_, describe_answers hall _, rfl⟩
      nullability := describe_answers hall _
      signed := describe_answers hall _
      precision := describe_answers hall _
      scale := describe_answers hall _ }

end ResultTable

namespace ColumnPlan

open ResultTable

/-- The value of a large object of a table, if there is one and it is within the limit. -/
def wholeOf {υ : Type} (toValue : List υ → Value) (limit : UInt64) :
    Option (TableHandle υ) → Except Error Value
  | none => .ok .null
  | some handle =>
    if limit.toNat < handle.length then .error (.oversizedLargeObject handle.length limit.toNat)
    else .ok (toValue (handle.slice 0 handle.length))

/-- What a plan makes of a cell before the null indicator is asked. -/
def interpret (limit : UInt64) (plan : ColumnPlan) (cell : Cell) : Except Error Value :=
  match plan with
  | .boolean => (boolOf cell).map .bool
  | .integer .int8 => ((narrowOf .int8 "i8" cell).map Int8.ofInt).map .int8
  | .integer .int16 => ((narrowOf .int16 "i16" cell).map Int16.ofInt).map .int16
  | .integer .int32 => ((narrowOf .int32 "i32" cell).map Int32.ofInt).map .int32
  | .integer .int64 => ((integerOf cell).map Int64.ofInt).map .int64
  | .float32 => ((floatOf cell).map (·.toBinary32)).map .float32
  | .float64 => (floatOf cell).map .float64
  | .decimal scale => (decimalOf scale cell).map (Value.ofOption .decimal)
  | .text .standard | .text .national => (stringOf cell).map (Value.ofOption .string)
  | .text .clob | .text .nClob =>
    (clobOf cell).bind (wholeOf (fun content => .string (String.ofList content)) limit)
  | .text .dataLink => (urlOf cell).map (Value.ofOption fun u => .string u.text)
  | .text .xml =>
    (xmlOf cell).map (Value.ofOption fun handle => .string (String.ofList handle.content))
  | .binary .standard => (bytesOf cell).map (Value.ofOption .bytes)
  | .binary .blob => (blobOf cell).bind (wholeOf .bytes limit)
  | .date => (dateOf cell).map (Value.ofOption .date)
  | .time => (timeOf cell).map (Value.ofOption .time)
  | .timestamp => (timestampOf cell).map (Value.ofOption .timestamp)

/-- The number of handles among what opening a cell answers. -/
def handleCount {υ : Type} : Except Error (Option (TableHandle υ)) → Nat
  | .ok (some _) => 1
  | _ => 0

/-- The number of handles that a plan opens on a cell. -/
def handles (plan : ColumnPlan) (cell : Cell) : Nat :=
  match plan with
  | .text .clob | .text .nClob => handleCount (clobOf cell)
  | .text .xml => handleCount (xmlOf cell)
  | .binary .blob => handleCount (blobOf cell)
  | _ => 0

end ColumnPlan

section

variable {υ κ : Type} {t : ResultTable} {index : Nat} {cell : Cell} {limit : UInt64}

open ResultTable ColumnPlan

/-- Large objects of tables, with contents made of the units that a handle holds. -/
def TableHandle.object (make : List υ → κ) : LargeObject ResultTable (TableHandle υ) κ where
  length := TableHandle.whileOpen (·.length)
  read offset count := TableHandle.whileOpen fun h => make (h.slice offset count)
  free := TableHandle.free

/-- Blobs of tables are large objects whose contents are the bytes themselves. -/
theorem ResultTable.rowSource_blob : rowSource.blob = TableHandle.object id := rfl

/-- Texts of tables are large objects whose contents are made of characters. -/
theorem ResultTable.rowSource_clob : rowSource.clob = TableHandle.object String.ofList := rfl

/-- A scope with a handle that was just opened releases it once and reports nothing. -/
theorem TableHandle.releasing_fresh {α : Type} {handle : TableHandle υ}
    (hfresh : handle.freed = false) (use : Step (TableHandle υ × ResultTable) α)
    (huse : (use (handle, t)).2 = (handle, t)) :
    releasing TableHandle.free handle use t =
      ((use (handle, t)).1, [], { t with released := t.released + 1 }) := by
  simp [releasing, huse, TableHandle.free, hfresh]

/-- A large object of a table is read whole if its reported length is within the limit. -/
theorem TableHandle.readWhole_fresh {handle : TableHandle υ} (hfresh : handle.freed = false)
    (make : List υ → κ) :
    (TableHandle.object make).readWhole limit (handle, t) =
      (if limit.toNat < handle.length then
          .error (.oversizedLargeObject handle.length limit.toNat)
        else .ok (make (handle.slice 0 handle.length)), handle, t) := by
  unfold LargeObject.readWhole
  rw [Step.bind_of_ok (a := handle.length) (by simp [object, whileOpen, hfresh])]
  split <;> simp [object, whileOpen, hfresh, Step.fail]

/-- Reading behind a handle on a cell of a table opens the handle, uses it and releases it. -/
theorem TableHandle.drainBy_of_cell (hcell : t.cell index = .ok cell)
    {opening : Cell → Except Error (Option (TableHandle υ))}
    (hfresh : ∀ handle, opening cell = .ok (some handle) → handle.freed = false)
    {use : Step (TableHandle υ × ResultTable) κ} {answer : TableHandle υ → Except Error κ}
    (huse : ∀ handle u, handle.freed = false → use (handle, u) = (answer handle, handle, u))
    (toValue : κ → Value) :
    drainBy TableHandle.free use toValue (fetch opening index) t =
      ((opening cell).bind fun handle? => handle?.elim (.ok .null) fun handle =>
          (answer handle).map toValue, [],
        t.after cell (handleCount (opening cell))) := by
  unfold drainBy
  have hfetch := fetch_of_cell hcell opening
  cases hopening : opening cell with
  | error e =>
    rw [hopening] at hfetch
    rw [Traced.bind_lift_of_error (congrArg Prod.fst hfetch), hfetch]
    rfl
  | ok handle? =>
    rw [hopening] at hfetch
    rw [Traced.bind_lift_of_ok (congrArg Prod.fst hfetch), hfetch]
    cases handle? with
    | none => rfl
    | some handle =>
      have hopen := hfresh handle hopening
      have hused := huse handle (t.after cell 0) hopen
      have hscope : releasing TableHandle.free handle use (t.after cell 0) = _ :=
        releasing_fresh hopen use (congrArg Prod.snd hused)
      rw [hused] at hscope
      cases hanswer : answer handle with
      | error e =>
        rw [hanswer] at hscope
        refine (Traced.bind_of_error (congrArg Prod.fst hscope) _).trans ?_
        rw [hscope]
        simp [Except.bind, hanswer, Except.map, handleCount, after]
      | ok content =>
        rw [hanswer] at hscope
        refine (Traced.bind_of_ok (congrArg Prod.fst hscope) _).trans ?_
        rw [hscope]
        simp [Except.bind, hanswer, Except.map, handleCount, after]

/-- Reading a large object out of a cell of a table gives its whole value within the limit. -/
theorem TableHandle.drain_of_cell (hcell : t.cell index = .ok cell)
    {opening : Cell → Except Error (Option (TableHandle υ))}
    (hfresh : ∀ handle, opening cell = .ok (some handle) → handle.freed = false)
    (make : List υ → κ) (toValue : κ → Value) :
    (TableHandle.object make).drain toValue limit (fetch opening index) t =
      ((opening cell).bind (wholeOf (fun content => toValue (make content)) limit), [],
        t.after cell (handleCount (opening cell))) := by
  rw [LargeObject.drain_eq]
  refine (drainBy_of_cell hcell hfresh (fun _ _ h => readWhole_fresh h make) toValue).trans ?_
  rcases opening cell with _ | _ | handle
  · rfl
  · rfl
  · by_cases hlong : limit.toNat < handle.length
    · simp [Except.bind, wholeOf, hlong, Except.map]
    · simp [Except.bind, wholeOf, hlong, Except.map]

/-- Reading a document out of a cell of a table gives its text. -/
theorem TableHandle.drainXml_of_cell (hcell : t.cell index = .ok cell)
    (hfresh : ∀ handle, xmlOf cell = .ok (some handle) → handle.freed = false) :
    rowSource.xml.drain (fetch xmlOf index) t =
      ((xmlOf cell).map (Value.ofOption fun handle => .string (String.ofList handle.content)), [],
        t.after cell (handleCount (xmlOf cell))) := by
  have huse (handle : TableHandle Char) (u : ResultTable) (hopen : handle.freed = false) :
      rowSource.xml.text (handle, u) = (.ok (String.ofList handle.content), handle, u) := by
    simp [rowSource, whileOpen, hopen]
  rw [XmlDocument.drain_eq]
  refine (drainBy_of_cell hcell hfresh huse .string).trans ?_
  rcases xmlOf cell with _ | _ | handle <;> rfl

end

namespace ResultTable

variable {t : ResultTable} {index : Nat} {cell : Cell}

/-- A handle that was just opened on bytes is not released. -/
theorem blobOf_fresh {handle : TableHandle UInt8} (h : blobOf cell = .ok (some handle)) :
    handle.freed = false := by
  unfold blobOf at h
  split at h <;> cases h <;> rfl

/-- A handle that was just opened on text is not released. -/
theorem clobOf_fresh {handle : TableHandle Char} (h : clobOf cell = .ok (some handle)) :
    handle.freed = false := by
  unfold clobOf at h
  split at h <;> cases h <;> rfl

/-- A handle that was just opened on a document is not released. -/
theorem xmlOf_fresh {handle : TableHandle Char} (h : xmlOf cell = .ok (some handle)) :
    handle.freed = false := by
  unfold xmlOf at h
  split at h <;> cases h <;> rfl

/-- A plain read of a cell makes a value of what the cell is interpreted as. -/
theorem ofStep_fetch_of_cell {α : Type} (hcell : t.cell index = .ok cell)
    (interpret : Cell → Except Error α) (toValue : α → Value) :
    Traced.ofStep ((fetch interpret index).map toValue) t =
      ((interpret cell).map toValue, [], t.after cell 0) := by
  rw [Traced.ofStep_apply, Step.map_apply, fetch_of_cell hcell]

open TableHandle in
/-- Reading a cell by a plan interprets it, sets the null indicator and releases what it opens. -/
theorem readBy_of_cell (hcell : t.cell index = .ok cell) (plan : ColumnPlan) (limit : UInt64) :
    rowSource.readBy plan index limit t =
      (plan.interpret limit cell, [], t.after cell (plan.handles cell)) := by
  cases plan with
  | integer width => cases width <;> exact ofStep_fetch_of_cell hcell _ _
  | text source =>
    cases source with
    | standard | national | dataLink => exact ofStep_fetch_of_cell hcell _ _
    | clob => exact drain_of_cell hcell (fun _ => clobOf_fresh) String.ofList .string
    | nClob => exact drain_of_cell hcell (fun _ => clobOf_fresh) String.ofList .string
    | xml => exact drainXml_of_cell hcell fun _ => xmlOf_fresh
  | binary source =>
    cases source with
    | standard => exact ofStep_fetch_of_cell hcell _ _
    | blob => exact drain_of_cell hcell (fun _ => blobOf_fresh) id .bytes
  | boolean | float32 | float64 | decimal | date | time | timestamp =>
    exact ofStep_fetch_of_cell hcell _ _

/-- Without a cell to read, a read by any plan fails and changes nothing. -/
theorem readBy_of_error {e : Error} (hcell : t.cell index = .error e) (plan : ColumnPlan)
    (limit : UInt64) : rowSource.readBy plan index limit t = (.error e, [], t) := by
  have hfetch {α : Type} (interpret : Cell → Except Error α) := fetch_of_error hcell interpret
  have hplain {α : Type} (interpret : Cell → Except Error α) (toValue : α → Value) :
      Traced.ofStep ((fetch interpret index).map toValue) t = (.error e, [], t) := by
    rw [Traced.ofStep_apply, Step.map_apply, hfetch]
    rfl
  have hopened {η : Type} (opening : Cell → Except Error (Option η))
      (f : Option η → Traced ResultTable Value) :
      ((liftM (fetch opening index) : Traced ResultTable (Option η)) >>= f) t =
        (.error e, [], t) := by
    rw [Traced.bind_lift_of_error (congrArg Prod.fst (hfetch opening)), hfetch]
  cases plan with
  | integer width => cases width <;> exact hplain _ _
  | text source =>
    cases source with
    | standard | national | dataLink => exact hplain _ _
    | clob | nClob => exact hopened clobOf _
    | xml => exact hopened xmlOf _
  | binary source =>
    cases source with
    | standard => exact hplain _ _
    | blob => exact hopened blobOf _
  | boolean | float32 | float64 | decimal | date | time | timestamp => exact hplain _ _

end ResultTable

end RowCast

import RowCast.Column.Plan
import RowCast.Conversion.Event
import RowCast.Conversion.Settings
import RowCast.Record.Basic
import RowCast.Source.Row

/-!
# From rows to records

Values read from the current row by the plans of its columns, and the record that they make. Large
objects are read whole and their handles released. A column that fails leaves its field empty and
the rest of the row alone.
-/

namespace RowCast

section

variable {σ η κ α : Type}

/--
Use a handle and release it afterwards, whatever happened; a failing release is only reported.
-/
def releasing (free : Step (η × σ) Unit) (handle : η) (use : Step (η × σ) α) :
    Traced σ α := fun s =>
  let (answer, used) := use (handle, s)
  match free used with
  | (.ok (), _, s) => (answer, [], s)
  | (.error e, _, s) => (answer, [.failedRelease e], s)

/-- Read a large object whole, if the length that it reports is within the limit. -/
def LargeObject.readWhole (object : LargeObject σ η κ) (limit : UInt64) : Step (η × σ) κ := do
  let length ← object.length
  if limit.toNat < length then Step.fail (.oversizedLargeObject length limit.toNat)
  else object.read 0 length

/-- The large object behind a handle, if there is one, as a value. -/
def LargeObject.drain (object : LargeObject σ η κ) (toValue : κ → Value) (limit : UInt64)
    (acquire : Step σ (Option η)) : Traced σ Value := do
  match ← acquire with
  | none => pure .null
  | some handle =>
    let content ← releasing object.free handle (object.readWhole limit)
    pure (toValue content)

/-- The document behind a handle, if there is one, as a value. -/
def XmlDocument.drain (document : XmlDocument σ η) (acquire : Step σ (Option η)) :
    Traced σ Value := do
  match ← acquire with
  | none => pure .null
  | some handle =>
    let text ← releasing document.free handle document.text
    pure (.string text)

/-- A value, or NULL where there is none. -/
def Value.ofOption (toValue : α → Value) : Option α → Value
  | some a => toValue a
  | none => .null

end

section

variable {σ β χ ξ : Type}

/-- The plan for a column of the given type, by the metadata of the result. -/
def Metadata.plan? (metadata : Metadata σ) (index : Nat) (columnType : ColumnType)
    (mapNumerics : Bool) : Step σ (Option ColumnPlan) := do
  let signed ← metadata.isSigned index
  let precision ← metadata.precision index
  let scale ← metadata.scale index
  pure (ColumnPlan.of? columnType signed precision scale mapNumerics)

/-- The type and the field name of a column. -/
def Metadata.identify (metadata : Metadata σ) (index : Nat) : Step σ (ColumnType × String) := do
  let code ← metadata.columnType index
  let label ← metadata.columnLabel index
  let name ← metadata.columnName index
  pure (.ofCode code, fieldName label name)

/-- What became of a column of the current row. -/
inductive ColumnOutcome where
  | unreadable (cause : Error)
  | unsupported
  | failed (field : String) (columnType : ColumnType) (cause : Error)
  | extracted (field : String) (value : Value)
  deriving DecidableEq

namespace RowSource

/-- Read the value of a column by a plan. -/
def readBy (row : RowSource σ β χ ξ) (plan : ColumnPlan) (index : Nat) (limit : UInt64) :
    Traced σ Value :=
  match plan with
  | .boolean => Traced.ofStep ((row.getBool index).map .bool)
  | .integer .int8 => Traced.ofStep ((row.getInt8 index).map .int8)
  | .integer .int16 => Traced.ofStep ((row.getInt16 index).map .int16)
  | .integer .int32 => Traced.ofStep ((row.getInt32 index).map .int32)
  | .integer .int64 => Traced.ofStep ((row.getInt64 index).map .int64)
  | .float32 => Traced.ofStep ((row.getFloat32 index).map .float32)
  | .float64 => Traced.ofStep ((row.getFloat64 index).map .float64)
  | .decimal scale => Traced.ofStep ((row.getDecimal index scale).map (Value.ofOption .decimal))
  | .text .standard => Traced.ofStep ((row.getString index).map (Value.ofOption .string))
  | .text .national => Traced.ofStep ((row.getNationalString index).map (Value.ofOption .string))
  | .text .clob => row.clob.drain .string limit (row.openClob index)
  | .text .nClob => row.clob.drain .string limit (row.openNationalClob index)
  | .text .dataLink =>
    Traced.ofStep ((row.getUrl index).map (Value.ofOption fun u => .string u.text))
  | .text .xml => row.xml.drain (row.openXml index)
  | .binary .standard => Traced.ofStep ((row.getBytes index).map (Value.ofOption .bytes))
  | .binary .blob => row.blob.drain .bytes limit (row.openBlob index)
  | .date => Traced.ofStep ((row.getDate index).map (Value.ofOption .date))
  | .time => Traced.ofStep ((row.getTime index).map (Value.ofOption .time))
  | .timestamp => Traced.ofStep ((row.getTimestamp index).map (Value.ofOption .timestamp))

/-- Ask the null indicator. -/
def askNull (row : RowSource σ β χ ξ) : Step σ Bool := fun s =>
  let (answer, s) := row.wasNull s
  (.ok answer, s)

/--
Extract the value of a column from the current row, or nothing if its type has no counterpart. What
the source calls NULL is NULL, whatever the read answered.
-/
def extract (row : RowSource σ β χ ξ) (index : Nat) (columnType : ColumnType)
    (settings : Settings) : Traced σ (Option Value) := do
  match ← row.toMetadata.plan? index columnType settings.mapNumerics with
  | none => pure none
  | some plan =>
    let value ← row.readBy plan index settings.maxLobLength
    if ← row.askNull then pure (some .null) else pure (some value)

/-- Read a column of the current row; nothing that fails in it goes further. -/
def readColumn (row : RowSource σ β χ ξ) (settings : Settings) (index : Nat) (s : σ) :
    ColumnOutcome × List Event × σ :=
  match row.toMetadata.identify index s with
  | (.error e, s) => (.unreadable e, [], s)
  | (.ok (columnType, field), s) =>
    match row.extract index columnType settings s with
    | (.ok (some value), log, s) => (.extracted field value, log, s)
    | (.ok none, log, s) => (.unsupported, log, s)
    | (.error e, log, s) => (.failed field columnType e, log, s)

end RowSource

/-- Store what became of a column in a record; every loss is reported, a missing type excepted. -/
def Record.store (record : Record) (index : Nat) : ColumnOutcome → Record × List Event
  | .unreadable e => (record, [.unreadableColumn index e])
  | .unsupported => (record, [])
  | .failed field columnType e => (record, [.failedExtraction field columnType e])
  | .extracted field value =>
    match record.put field value with
    | .ok stored => (stored, [])
    | .error e => (record, [.rejectedValue field e])

namespace RowSource

/-- Store the columns at the given positions in a record, in order. -/
def storeColumns (row : RowSource σ β χ ξ) (settings : Settings) :
    List Nat → Record → σ → Record × List Event × σ
  | [], record, s => (record, [], s)
  | index :: rest, record, s =>
    let (outcome, log, s) := row.readColumn settings index s
    let (record, losses) := record.store index outcome
    let (record, more, s) := storeColumns row settings rest record s
    (record, log ++ losses ++ more, s)

/-- The record that the current row makes; it fails only if the number of columns is not known. -/
def toRecord (row : RowSource σ β χ ξ) (schema : Schema) (settings : Settings) :
    Traced σ Record := do
  let count ← row.columnCount
  fun s =>
    let (record, log, s) := row.storeColumns settings (List.range count) (.empty schema) s
    (.ok record, log, s)

end RowSource

end

end RowCast

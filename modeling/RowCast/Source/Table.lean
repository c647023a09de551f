import RowCast.Decimal.Rescale
import RowCast.Source.Row
import RowCast.Column.IntegerWidth
import RowCast.Value.Basic

/-!
# Result tables

Results that are held in memory: columns, rows of cells and a cursor position. They behave as
drivers do: reads of numbers give zero for NULL and set the null indicator, and large objects are
read through handles whose releases are counted.
-/

namespace RowCast

/-- The content of one column in one row. -/
inductive Cell where
  | value (v : Value)
  /-- Bytes read through a handle that reports the given length. -/
  | blob (data : List UInt8) (length : Nat)
  /-- A text read through a handle that reports the given length. -/
  | clob (data : String) (length : Nat)
  | xml (text : String)
  | url (u : Url)
  /-- A cell whose every read fails. -/
  | failing (message : String)
  deriving DecidableEq

namespace Cell

/-- The cell of SQL NULL. -/
def null : Cell := value .null

/-- A cell of bytes that reports its true length. -/
def ofBytes (data : List UInt8) : Cell := blob data data.length

/-- A cell of text that reports its true length. -/
def ofText (data : String) : Cell := clob data data.length

/-- What a cell holds, in messages. -/
def kindName : Cell → String
  | value v => v.typeName
  | blob .. => "blob"
  | clob .. => "clob"
  | xml _ => "xml"
  | url _ => "url"
  | failing _ => "error"

end Cell

/-- A handle to a large object or document of a table: its content, as a list of units. -/
structure TableHandle (υ : Type) where
  content : List υ
  /-- The length that the handle reports. -/
  length : Nat
  freed : Bool
  deriving DecidableEq

/-- A result in memory with its cursor. -/
structure ResultTable where
  columns : List Column
  rows : List (List Cell)
  /-- The position of the cursor, past the last row at most; nothing before the first move. -/
  position : Option Nat
  /-- Whether the last cell that was read held NULL. -/
  lastNull : Bool
  /-- The number of handles released so far. -/
  released : Nat
  deriving DecidableEq

namespace ResultTable

/-- A table of columns and rows, before its first row. -/
def ofRows (columns : List Column) (rows : List (List Cell)) : ResultTable :=
  ⟨columns, rows, none, false, 0⟩

/-- Append a row. -/
def pushRow (t : ResultTable) (row : List Cell) : ResultTable :=
  { t with rows := t.rows ++ [row] }

/-- The position that the next move aims at. -/
def nextPosition (t : ResultTable) : Nat :=
  match t.position with
  | none => 0
  | some p => p + 1

/-- Move to the next row; the position stops behind the last one. -/
def nextRow (t : ResultTable) : Bool × ResultTable :=
  (decide (t.nextPosition < t.rows.length),
    { t with position := some (min t.nextPosition t.rows.length) })

/-- The number of rows still to come. -/
def remaining (t : ResultTable) : Nat :=
  t.rows.length - t.nextPosition

/-- A failure that names a column out of range. -/
def outOfRange (index : Nat) : Error :=
  .driver ("column index " ++ String.ofList (Text.natText index) ++ " out of range")

/-- A failure to read a cell as something else. -/
def mismatch (cell : Cell) (target : String) : Error :=
  .driver ("cannot read " ++ cell.kindName ++ " as " ++ target)

/-- The cells of the current row. -/
def currentRow? (t : ResultTable) : Option (List Cell) :=
  t.position.bind fun p => t.rows[p]?

/-- The cell of the current row at a column. -/
def cell (t : ResultTable) (index : Nat) : Except Error Cell :=
  match t.currentRow? with
  | none => .error (.driver "no current row")
  | some row =>
    match row[index]? with
    | none => .error (outOfRange index)
    | some (.failing message) => .error (.driver message)
    | some cell => .ok cell

/-- Read a cell, note whether it holds NULL, and interpret it. -/
def fetch {α : Type} (interpret : Cell → Except Error α) (index : Nat) :
    Step ResultTable α := fun t =>
  match t.cell index with
  | .ok cell => (interpret cell, { t with lastNull := decide (cell = .null) })
  | .error e => (.error e, t)

/--
The integer in a cell: zero for NULL, also from truth values and from decimals without a fraction.
-/
def integerOf (cell : Cell) : Except Error Int :=
  match cell with
  | .value .null => .ok 0
  | .value (.bool b) => .ok (if b then 1 else 0)
  | .value (.decimal d) =>
    match d.toInt? with
    | some n =>
      if IntegerWidth.int64.holds n then .ok n
      else .error (.driver (String.ofList d.text ++ " out of range"))
    | none => .error (mismatch cell "integer")
  | .value v =>
    match v.asInt64? with
    | some n => .ok n.toInt
    | none => .error (mismatch cell "integer")
  | cell => .error (mismatch cell "integer")

/-- The integer in a cell, which must fit a width; `target` names the width in messages. -/
def narrowOf (width : IntegerWidth) (target : String) (cell : Cell) : Except Error Int := do
  let n ← integerOf cell
  if width.holds n then .ok n
  else .error (.driver (String.ofList (Text.intText n) ++ " out of range for " ++ target))

/-- The number in a cell as a float: zero for NULL. -/
def floatOf (cell : Cell) : Except Error Binary64 :=
  match cell with
  | .value .null => .ok .zero
  | .value v =>
    match v.asFloat64? with
    | some x => .ok x
    | none => .error (mismatch cell "float")
  | cell => .error (mismatch cell "float")

/-- The truth value in a cell: false for NULL, true for integers other than zero. -/
def boolOf (cell : Cell) : Except Error Bool :=
  match cell with
  | .value .null => .ok false
  | .value v =>
    match v.asBool?.or (v.asInt64?.map fun n => n != 0) with
    | some b => .ok b
    | none => .error (mismatch cell "bool")
  | cell => .error (mismatch cell "bool")

/-- The decimal or integer in a cell, at a requested scale. -/
def decimalOf (scale : Int32) (cell : Cell) : Except Error (Option Decimal) :=
  match cell with
  | .value .null => .ok none
  | .value (.decimal d) => .ok (some (d.rescaleTo scale))
  | .value v =>
    match v.asInt64? with
    | some n => .ok (some ((Decimal.ofInt64 n).rescaleTo scale))
    | none => .error (mismatch cell "decimal")
  | cell => .error (mismatch cell "decimal")

/-- The text in a cell, large texts, documents and URLs included. -/
def stringOf : Cell → Except Error (Option String)
  | .value .null => .ok none
  | .value (.string s) => .ok (some s)
  | .clob data _ => .ok (some data)
  | .xml text => .ok (some text)
  | .url u => .ok (some u.text)
  | cell => .error (mismatch cell "string")

/-- The bytes in a cell, large ones included. -/
def bytesOf : Cell → Except Error (Option (List UInt8))
  | .value .null => .ok none
  | .value (.bytes data) => .ok (some data)
  | .blob data _ => .ok (some data)
  | cell => .error (mismatch cell "bytes")

/-- The day in a cell, also of an instant. -/
def dateOf : Cell → Except Error (Option Date)
  | .value .null => .ok none
  | .value (.date d) => .ok (some d)
  | .value (.timestamp t) => .ok (some t.date)
  | cell => .error (mismatch cell "date")

/-- The time in a cell, also of an instant. -/
def timeOf : Cell → Except Error (Option TimeOfDay)
  | .value .null => .ok none
  | .value (.time t) => .ok (some t)
  | .value (.timestamp t) => .ok (some t.time)
  | cell => .error (mismatch cell "time")

/-- The instant in a cell; a day is its midnight. -/
def timestampOf : Cell → Except Error (Option Timestamp)
  | .value .null => .ok none
  | .value (.timestamp t) => .ok (some t)
  | .value (.date d) => .ok (some ⟨d, .midnight⟩)
  | cell => .error (mismatch cell "timestamp")

/-- The URL in a cell, also in a text that is one. -/
def urlOf : Cell → Except Error (Option Url)
  | .value .null => .ok none
  | .url u => .ok (some u)
  | .value (.string s) =>
    match Url.parse s with
    | .ok u => .ok (some u)
    | .error e =>
      .error (.driverAccess ("invalid URL " ++ String.ofList (Text.quoted s.toList))
        (some e.message))
  | cell => .error (mismatch cell "url")

/-- A handle to the bytes in a cell. -/
def blobOf : Cell → Except Error (Option (TableHandle UInt8))
  | .value .null => .ok none
  | .blob data length => .ok (some ⟨data, length, false⟩)
  | .value (.bytes data) => .ok (some ⟨data, data.length, false⟩)
  | cell => .error (mismatch cell "blob")

/-- A handle to the text in a cell. -/
def clobOf : Cell → Except Error (Option (TableHandle Char))
  | .value .null => .ok none
  | .clob data length => .ok (some ⟨data.toList, length, false⟩)
  | .value (.string s) => .ok (some ⟨s.toList, s.length, false⟩)
  | cell => .error (mismatch cell "clob")

/-- A handle to the document in a cell. -/
def xmlOf : Cell → Except Error (Option (TableHandle Char))
  | .value .null => .ok none
  | .xml text => .ok (some ⟨text.toList, text.utf8ByteSize, false⟩)
  | .value (.string s) => .ok (some ⟨s.toList, s.utf8ByteSize, false⟩)
  | cell => .error (mismatch cell "xml")

end ResultTable

namespace TableHandle

variable {υ : Type}

/-- Use a handle that has not been released. -/
def whileOpen {α : Type} (use : TableHandle υ → α) :
    Step (TableHandle υ × ResultTable) α := fun s =>
  (if s.1.freed then .error (.driver "handle already freed") else .ok (use s.1), s)

/-- Release a handle and count that; a handle is released once. -/
def free : Step (TableHandle υ × ResultTable) Unit := fun s =>
  if s.1.freed then (.error (.driver "handle already freed"), s)
  else (.ok (), { s.1 with freed := true }, { s.2 with released := s.2.released + 1 })

/-- The units of the content from a position on, at most `count` of them. -/
def slice (offset count : Nat) (h : TableHandle υ) : List υ :=
  (h.content.drop offset).take count

end TableHandle

namespace ResultTable

/-- The description of a column. -/
def describe {α : Type} (view : Column → α) (index : Nat) : Step ResultTable α := fun t =>
  match t.columns[index]? with
  | some column => (.ok (view column), t)
  | none => (.error (outOfRange index), t)

/-- The metadata of a table. -/
def metadata : Metadata ResultTable where
  columnCount t := (.ok t.columns.length, t)
  columnName := describe (·.name)
  columnLabel := describe (·.label)
  columnType := describe (·.columnType.code)
  nullability := describe (·.nullability)
  isSigned := describe (·.signed)
  precision := describe (·.precision)
  scale := describe (·.scale)

/-- The current row of a table as a data source. -/
def rowSource :
    RowSource ResultTable (TableHandle UInt8) (TableHandle Char) (TableHandle Char) where
  toMetadata := metadata
  wasNull t := (t.lastNull, t)
  getBool := fetch boolOf
  getInt8 := fetch fun cell => (narrowOf .int8 "i8" cell).map .ofInt
  getInt16 := fetch fun cell => (narrowOf .int16 "i16" cell).map .ofInt
  getInt32 := fetch fun cell => (narrowOf .int32 "i32" cell).map .ofInt
  getInt64 := fetch fun cell => (integerOf cell).map .ofInt
  getFloat32 := fetch fun cell => (floatOf cell).map (·.toBinary32)
  getFloat64 := fetch floatOf
  getDecimal index scale := fetch (decimalOf scale) index
  getString := fetch stringOf
  getNationalString := fetch stringOf
  getBytes := fetch bytesOf
  getDate := fetch dateOf
  getTime := fetch timeOf
  getTimestamp := fetch timestampOf
  getUrl := fetch urlOf
  openBlob := fetch blobOf
  openClob := fetch clobOf
  openNationalClob := fetch clobOf
  openXml := fetch xmlOf
  blob :=
    { length := TableHandle.whileOpen (·.length)
      read := fun offset count => TableHandle.whileOpen (·.slice offset count)
      free := TableHandle.free }
  clob :=
    { length := TableHandle.whileOpen (·.length)
      read := fun offset count =>
        TableHandle.whileOpen fun h => String.ofList (h.slice offset count)
      free := TableHandle.free }
  xml :=
    { text := TableHandle.whileOpen fun h => String.ofList h.content
      free := TableHandle.free }

/-- The rows of a table as a cursor. -/
def cursor : Cursor ResultTable (TableHandle UInt8) (TableHandle Char) (TableHandle Char) where
  row := rowSource
  advance t := (.ok t.nextRow.1, t.nextRow.2)

end ResultTable

end RowCast

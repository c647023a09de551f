import RowCast.Column.Descriptor
import RowCast.Column.IntegerWidth

/-!
# Column plans

How the values of a column are read. A plan fixes both the type of the field in the schema and the
way each value is taken from a row, so that the two agree.
-/

namespace RowCast

/-- Where the text of a character column comes from. -/
inductive TextSource where
  | standard
  | national
  | clob
  | nClob
  | dataLink
  | xml
  deriving DecidableEq, Repr

/-- Where the bytes of a binary column come from. -/
inductive BinarySource where
  | standard
  | blob
  deriving DecidableEq, Repr

/-- How the values of one column are read. -/
inductive ColumnPlan where
  | boolean
  | integer (width : IntegerWidth)
  | float32
  | float64
  | decimal (scale : Int32)
  | text (source : TextSource)
  | binary (source : BinarySource)
  | date
  | time
  | timestamp
  deriving DecidableEq, Repr

namespace ColumnPlan

/-- An integer column of the given width; unsigned numbers need the next wider one. -/
def ofInteger (width : IntegerWidth) (signed : Bool) : ColumnPlan :=
  integer (if signed then width else width.widen)

/-- The plan for a column with the given metadata, or nothing if its type has no counterpart. -/
def of? (columnType : ColumnType) (signed : Bool) (precision scale : Int32) (mapNumerics : Bool) :
    Option ColumnPlan :=
  match columnType with
  | .boolean => some boolean
  | .bit => some (integer .int8)
  | .tinyInt => some (ofInteger .int8 signed)
  | .smallInt => some (ofInteger .int16 signed)
  | .integer => some (ofInteger .int32 signed)
  | .bigInt => some (integer .int64)
  | .real => some float32
  | .float | .double => some float64
  | .numeric =>
    match IntegerWidth.ofNumeric? precision scale mapNumerics with
    | some width => some (integer width)
    | none => some (decimal (declaredScale scale))
  | .decimal => some (decimal (declaredScale scale))
  | .char | .varChar | .longVarChar => some (text .standard)
  | .nChar | .nVarChar | .longNVarChar => some (text .national)
  | .clob => some (text .clob)
  | .nClob => some (text .nClob)
  | .dataLink => some (text .dataLink)
  | .sqlXml => some (text .xml)
  | .binary | .varBinary | .longVarBinary => some (binary .standard)
  | .blob => some (binary .blob)
  | .date => some date
  | .time => some time
  | .timestamp => some timestamp
  | .null | .array | .javaObject | .other | .distinct | .struct | .ref | .rowId | .vendor _ => none

/-- The plan for a described column. -/
def ofColumn? (column : Column) (mapNumerics : Bool) : Option ColumnPlan :=
  of? column.columnType column.signed column.precision column.scale mapNumerics

/-- The type of the fields that hold the values read by a plan. -/
def fieldType : ColumnPlan → FieldType
  | boolean => .bool
  | integer width => width.fieldType
  | float32 => .float32
  | float64 => .float64
  | decimal scale => .decimal scale
  | text _ => .string
  | binary _ => .bytes
  | date => .date
  | time => .time
  | timestamp => .timestamp

end ColumnPlan

end RowCast

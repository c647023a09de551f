import RowCast.Text.Digits

/-!
# Logical types

The types that fields of a record may have.
-/

namespace RowCast

/-- The type of a record field. -/
inductive FieldType where
  | bool
  | int8
  | int16
  | int32
  | int64
  | float32
  | float64
  /-- Exact decimals with a number of fractional digits. -/
  | decimal (scale : Int32)
  | string
  | bytes
  | date
  | time
  | timestamp
  deriving DecidableEq, Repr

namespace FieldType

/-- The text of a type in messages. -/
def display : FieldType → String
  | bool => "bool"
  | int8 => "int8"
  | int16 => "int16"
  | int32 => "int32"
  | int64 => "int64"
  | float32 => "float32"
  | float64 => "float64"
  | decimal scale => "decimal(" ++ String.ofList (Text.intText scale.toInt) ++ ")"
  | string => "string"
  | bytes => "bytes"
  | date => "date"
  | time => "time"
  | timestamp => "timestamp"

end FieldType

end RowCast

import RowCast.Binary.Number
import RowCast.Calendar.Timestamp
import RowCast.Schema.FieldType

/-!
# Values

The values that fields of a record hold, and their views as simpler types. Structural equality tells
values apart by every bit; `sameValue` compares them as numbers.
-/

namespace RowCast

/-- A typed value. -/
inductive Value where
  | null
  | bool (b : Bool)
  | int8 (n : Int8)
  | int16 (n : Int16)
  | int32 (n : Int32)
  | int64 (n : Int64)
  | float32 (x : Binary32)
  | float64 (x : Binary64)
  | decimal (d : Decimal)
  | string (s : String)
  | bytes (data : List UInt8)
  | date (d : Date)
  | time (t : TimeOfDay)
  | timestamp (t : Timestamp)
  deriving DecidableEq

namespace Value

/-- Whether a value is SQL NULL. -/
def isNull : Value → Bool
  | null => true
  | _ => false

/-- The name of the type of a value in messages. -/
def typeName : Value → String
  | null => "null"
  | bool _ => "bool"
  | int8 _ => "int8"
  | int16 _ => "int16"
  | int32 _ => "int32"
  | int64 _ => "int64"
  | float32 _ => "float32"
  | float64 _ => "float64"
  | decimal _ => "decimal"
  | string _ => "string"
  | bytes _ => "bytes"
  | date _ => "date"
  | time _ => "time"
  | timestamp _ => "timestamp"

/-- The logical type of a value; NULL has none. -/
def fieldType? : Value → Option FieldType
  | null => none
  | bool _ => some .bool
  | int8 _ => some .int8
  | int16 _ => some .int16
  | int32 _ => some .int32
  | int64 _ => some .int64
  | float32 _ => some .float32
  | float64 _ => some .float64
  | decimal d => some (.decimal (Int32.ofNat d.scale))
  | string _ => some .string
  | bytes _ => some .bytes
  | date _ => some .date
  | time _ => some .time
  | timestamp _ => some .timestamp

/-- A truth value, or an 8-bit integer as the truth that it is not zero. -/
def asBool? : Value → Option Bool
  | bool b => some b
  | int8 n => some (n != 0)
  | _ => none

/-- An integer of any width. -/
def asInt64? : Value → Option Int64
  | int8 n => some n.toInt64
  | int16 n => some n.toInt64
  | int32 n => some n.toInt64
  | int64 n => some n
  | _ => none

/-- A number of any kind, rounded to 64 bits where it has more. -/
def asFloat64? : Value → Option Binary64
  | int8 n => some (.ofInt n.toInt)
  | int16 n => some (.ofInt n.toInt)
  | int32 n => some (.ofInt n.toInt)
  | int64 n => some (.ofInt n.toInt)
  | float32 x => some (.ofBinary32 x)
  | float64 x => some x
  | decimal d => some (.ofDecimal d)
  | _ => none

/-- An exact decimal. -/
def asDecimal? : Value → Option Decimal
  | decimal d => some d
  | _ => none

/-- A text. -/
def asString? : Value → Option String
  | string s => some s
  | _ => none

/-- Bytes. -/
def asBytes? : Value → Option (List UInt8)
  | bytes data => some data
  | _ => none

/--
Equality of values of one type, numbers compared as numbers: zeros of either sign are equal,
decimals may differ in scale, and what is no number differs from itself.
-/
def sameValue : Value → Value → Bool
  | float32 x, float32 y => x.sameNumber y
  | float64 x, float64 y => x.sameNumber y
  | decimal a, decimal b => a.sameValue b
  | a, b => a == b

end Value

end RowCast

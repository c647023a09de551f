import RowCast.Binary.Shortest
import RowCast.Calendar.Interchange
import RowCast.Column.IntegerWidth
import RowCast.Decimal.Reading
import RowCast.Serial.Entries
import RowCast.Value.Basic

/-!
# Serialized values

The JSON form that a value is stored in, under the name of its variant, and its decoding. All values
but floats and negative zeros come back as they were.
-/

namespace RowCast

/-- An 8-bit JSON number as a byte. -/
def Serial.decodeByte (j : Json) : Option UInt8 :=
  (decodeInt 0 255 j).map fun n => UInt8.ofNat n.toNat

/-- Decode a decimal from its text or from a number. -/
def Decimal.decode : Json → Option Decimal
  | .string s => ofText? s.toList
  | .int n => ofMantissa? n 0
  | .float x => if x.isFinite then readPlain (Shortest.text x) else none
  | _ => none

/-- Decode an integer of a given width. -/
def IntegerWidth.decode (width : IntegerWidth) : Json → Option Int :=
  Serial.decodeInt width.least width.greatest

/-- Decode a number as a 64-bit float. -/
def Binary64.decode : Json → Option Binary64
  | .int n => some (ofInt n)
  | .float x => some x
  | _ => none

/-- Decode a number as a 32-bit float. -/
def Binary32.decode : Json → Option Binary32
  | .int n => some (ofInt n)
  | .float x => some x.toBinary32
  | _ => none

namespace Value

/-- The name of the variant of a value in serialized form. -/
def variantName : Value → String
  | null => "Null"
  | bool _ => "Bool"
  | int8 _ => "Int8"
  | int16 _ => "Int16"
  | int32 _ => "Int32"
  | int64 _ => "Int64"
  | float32 _ => "Float32"
  | float64 _ => "Float64"
  | decimal _ => "Decimal"
  | string _ => "String"
  | bytes _ => "Bytes"
  | date _ => "Date"
  | time _ => "Time"
  | timestamp _ => "Timestamp"

/-- The serialized content of a value. -/
def encodeContent : Value → Json
  | null => .null
  | bool b => .bool b
  | int8 n => .int n.toInt
  | int16 n => .int n.toInt
  | int32 n => .int n.toInt
  | int64 n => .int n.toInt
  | float32 x => .ofFloat (.ofBinary32 x)
  | float64 x => .ofFloat x
  | decimal d => .string (String.ofList d.text)
  | string s => .string s
  | bytes data => .array (data.map fun b => .int b.toNat)
  | date d => .string (String.ofList d.text)
  | time t => .string (String.ofList t.text)
  | timestamp t => .string (String.ofList t.zuluText)

/-- The serialized form of a value: NULL is its bare name. -/
def encode : Value → Json
  | null => .string "Null"
  | v => .object [(v.variantName, v.encodeContent)]

/-- Decode the content of a variant. -/
def decodeContent (variant : String) (content : Json) : Option Value :=
  match variant with
  | "Null" =>
    match content with
    | .null => some null
    | _ => none
  | "Bool" => (Serial.decodeBool content).map bool
  | "Int8" => (IntegerWidth.int8.decode content).map fun n => int8 (.ofInt n)
  | "Int16" => (IntegerWidth.int16.decode content).map fun n => int16 (.ofInt n)
  | "Int32" => (IntegerWidth.int32.decode content).map fun n => int32 (.ofInt n)
  | "Int64" => (IntegerWidth.int64.decode content).map fun n => int64 (.ofInt n)
  | "Float32" => (Binary32.decode content).map float32
  | "Float64" => (Binary64.decode content).map float64
  | "Decimal" => (Decimal.decode content).map decimal
  | "String" => (Serial.decodeString content).map string
  | "Bytes" =>
    match content with
    | .array items => (items.mapM Serial.decodeByte).map bytes
    | _ => none
  | "Date" => ((Serial.decodeString content).bind fun s => Date.readLoose s.toList).map date
  | "Time" => ((Serial.decodeString content).bind fun s => TimeOfDay.readLoose s.toList).map time
  | "Timestamp" =>
    ((Serial.decodeString content).bind fun s => Timestamp.readLoose s.toList).map timestamp
  | _ => none

/-- Decode a value: an object with its variant as the only key, or the bare name of NULL. -/
def decode : Json → Option Value
  | .string s => if s = "Null" then some null else none
  | .object [(variant, content)] => decodeContent variant content
  | _ => none

end Value

end RowCast

import RowCast.Binary.Literal
import RowCast.Calendar.Pattern
import RowCast.Column.IntegerWidth
import RowCast.Text.IntLiteral
import RowCast.Value.Basic

/-!
# Default literals

The literals that catalogs give as defaults of columns, read as values of the column's logical type.
-/

namespace RowCast

/-- Why a text is no literal of a type. -/
inductive LiteralError where
  | integer (cause : IntLiteralError)
  | emptyFloat
  | invalidFloat
  | unrepresentable (unscaled : Int64) (scale : Int32)
  | temporal (cause : TemporalError)
  deriving DecidableEq, Repr

namespace LiteralError

/-- The text of an error in a literal. -/
def message : LiteralError → String
  | integer cause => cause.message
  | emptyFloat => "cannot parse float from empty string"
  | invalidFloat => "invalid float literal"
  | unrepresentable unscaled scale =>
    String.ofList (Text.intText unscaled.toInt) ++ " is not representable at scale " ++
      String.ofList (Text.intText scale.toInt)
  | temporal cause => cause.message

end LiteralError

namespace Literal

/-- The literal without its single quotes, wherever they stand, and then without outer blanks. -/
def unquote (s : List Char) : List Char :=
  Text.trim (s.filter (· ≠ '\x27'))

/-- The words that mean true; every other text means false. -/
def trueWords : List (List Char) :=
  ["true", "t", "yes", "y", "on", "1", "b1"].map String.toList

/-- Read a truth value. -/
def readBool (s : List Char) : Bool :=
  trueWords.contains (Text.lower (unquote s))

/-- Read an integer of a given width, after trimming. -/
def readInt (width : IntegerWidth) (s : List Char) : Except LiteralError Int :=
  (IntLiteral.read width.least width.greatest (Text.trim s)).mapError .integer

/-- Read a float with the given reader, after trimming. -/
def readFloat {α : Type} (read : List Char → Option α) (s : List Char) : Except LiteralError α :=
  if Text.trim s = [] then .error .emptyFloat
  else match read (Text.trim s) with
    | some x => .ok x
    | none => .error .invalidFloat

/-- Read an integer as the digits of a decimal with the given scale. -/
def readDecimal (scale : Int32) (s : List Char) : Except LiteralError Decimal := do
  let n ← readInt .int64 s
  let unscaled := Int64.ofInt n
  match Decimal.ofScaled? unscaled scale with
  | some d => .ok d
  | none => .error (.unrepresentable unscaled scale)

end Literal

/-- Read a literal as a value of the type. -/
def FieldType.readLiteral (type : FieldType) (literal : String) : Except LiteralError Value :=
  let s := literal.toList
  match type with
  | .bool => .ok (.bool (Literal.readBool s))
  | .int8 => (Literal.readInt .int8 s).map fun n => .int8 (.ofInt n)
  | .int16 => (Literal.readInt .int16 s).map fun n => .int16 (.ofInt n)
  | .int32 => (Literal.readInt .int32 s).map fun n => .int32 (.ofInt n)
  | .int64 => (Literal.readInt .int64 s).map fun n => .int64 (.ofInt n)
  | .float32 => (Literal.readFloat Binary32.ofLiteral? s).map .float32
  | .float64 => (Literal.readFloat Binary64.ofLiteral? s).map .float64
  | .decimal scale => (Literal.readDecimal scale s).map .decimal
  | .string => .ok (.string literal)
  | .bytes => .ok (.bytes literal.toUTF8.toList)
  | .date => ((Date.read (Literal.unquote s)).mapError .temporal).map .date
  | .time => ((TimeOfDay.read (Literal.unquote s)).mapError .temporal).map .time
  | .timestamp => ((Timestamp.read (Literal.unquote s)).mapError .temporal).map .timestamp

end RowCast

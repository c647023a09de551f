import RowCast.Json.Tree
import RowCast.Text.Base64
import RowCast.Value.Basic

/-!
# Values in transport

The JSON that carries a value: decimals are text so that their scale stays, bytes are Base64, days
and times have their usual text.
-/

namespace RowCast.Value

/-- The JSON that carries a value. -/
def toJson : Value → Json
  | null => .null
  | bool b => .bool b
  | int8 n => .int n.toInt
  | int16 n => .int n.toInt
  | int32 n => .int n.toInt
  | int64 n => .int n.toInt
  | float32 x => .ofFloat (.ofBinary32 x)
  | float64 x => .ofFloat x
  | decimal d => .string (String.ofList d.text)
  | string s => .string s
  | bytes data => .string (String.ofList (Text.base64 data))
  | date d => .string (String.ofList d.text)
  | time t => .string (String.ofList t.text)
  | timestamp t => .string (String.ofList t.offsetText)

end RowCast.Value

import RowCast.Schema.FieldType

/-!
# Integer widths

The widths of signed integer fields, and the narrow exact numerics that collapse to one of them.
-/

namespace RowCast

open scoped CorePowers

/-- The width of a signed integer. -/
inductive IntegerWidth where
  | int8
  | int16
  | int32
  | int64
  deriving DecidableEq, Repr

namespace IntegerWidth

/-- The number of bits. -/
def bits : IntegerWidth → Nat
  | int8 => 8
  | int16 => 16
  | int32 => 32
  | int64 => 64

/-- The next wider width; the widest one stays. -/
def widen : IntegerWidth → IntegerWidth
  | int8 => int16
  | int16 => int32
  | int32 => int64
  | int64 => int64

/-- The type of fields of this width. -/
def fieldType : IntegerWidth → FieldType
  | int8 => .int8
  | int16 => .int16
  | int32 => .int32
  | int64 => .int64

/-- The text of a width in messages. -/
def display (width : IntegerWidth) : String :=
  "int" ++ String.ofList (Text.natText width.bits)

/-- The least number of this width. -/
def least (width : IntegerWidth) : Int :=
  -2 ^ (width.bits - 1)

/-- The greatest number of this width. -/
def greatest (width : IntegerWidth) : Int :=
  2 ^ (width.bits - 1) - 1

/-- Whether a number fits into this width. -/
def holds (width : IntegerWidth) (n : Int) : Bool :=
  width.least ≤ n && n ≤ width.greatest

/--
The width that holds every number of `precision` digits, for an exact numeric that may collapse:
mapping is on, the scale is zero and there are fewer than nineteen digits.
-/
def ofNumeric? (precision scale : Int32) (mapNumerics : Bool) : Option IntegerWidth :=
  if mapNumerics = false ∨ scale ≠ 0 ∨ 19 ≤ precision then none
  else if 9 < precision then some int64
  else if 4 < precision then some int32
  else if 2 < precision then some int16
  else some int8

end IntegerWidth

/-- The scale of a decimal field: `-127` stands for a column without a declared one. -/
def declaredScale (scale : Int32) : Int32 :=
  if scale = -127 then 127 else scale

end RowCast

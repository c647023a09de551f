import RowCast.Error
import RowCast.Value.Basic

/-!
# Record schemas

The typed fields of the records of one table.
-/

namespace RowCast

/-- Whether a value other than NULL has the type; a decimal of any scale has every decimal type. -/
def FieldType.accepts : FieldType → Value → Bool
  | .bool, .bool _ => true
  | .int8, .int8 _ => true
  | .int16, .int16 _ => true
  | .int32, .int32 _ => true
  | .int64, .int64 _ => true
  | .float32, .float32 _ => true
  | .float64, .float64 _ => true
  | .decimal _, .decimal _ => true
  | .string, .string _ => true
  | .bytes, .bytes _ => true
  | .date, .date _ => true
  | .time, .time _ => true
  | .timestamp, .timestamp _ => true
  | _, _ => false

/-- One field of a record schema. -/
structure RecordField where
  name : String
  type : FieldType
  /-- Whether the field may be null. -/
  optional : Bool
  /-- The default of the field; a default of NULL differs from having none. -/
  default? : Option Value
  deriving DecidableEq

namespace RecordField

/-- Check that a value may be stored in the field. -/
def validate (field : RecordField) (value : Value) : Except Error Unit :=
  if value.isNull then
    if field.optional then .ok ()
    else .error (.fieldMismatch field.name "null value for required field")
  else if field.type.accepts value then .ok ()
  else .error (.fieldMismatch field.name
    (value.typeName ++ " value for " ++ field.type.display ++ " field"))

/-- Equality of fields, with defaults compared as numbers. -/
def sameField (a b : RecordField) : Bool :=
  a.name == b.name && a.type == b.type && a.optional == b.optional &&
    match a.default?, b.default? with
    | none, none => true
    | some x, some y => x.sameValue y
    | _, _ => false

end RecordField

/-- The fields of the records of one table, in order. -/
structure Schema where
  /-- The name of the table. -/
  name : String
  fields : List RecordField
  deriving DecidableEq

namespace Schema

/-- The schema without a name and without fields. -/
def empty : Schema := ⟨"", []⟩

/-- The number of fields. -/
def size (schema : Schema) : Nat :=
  schema.fields.length

/-- The first field of a name. -/
def field? (schema : Schema) (name : String) : Option RecordField :=
  schema.fields.find? fun field => field.name == name

/-- The position of the first field of a name. -/
def indexOf? (schema : Schema) (name : String) : Option Nat :=
  schema.fields.findIdx? fun field => field.name == name

/-- The names of the fields, in order. -/
def fieldNames (schema : Schema) : List String :=
  schema.fields.map (·.name)

/-- Equality of schemas, with defaults compared as numbers. -/
def sameSchema (a b : Schema) : Bool :=
  a.name == b.name && a.fields.length == b.fields.length &&
    (a.fields.zip b.fields).all fun p => p.1.sameField p.2

end Schema

end RowCast

import RowCast.Schema.Basic
import RowCast.Serial.Value

/-!
# Serialized schemas

The JSON forms that types, fields and schemas are stored in, and their decoding. Structures are read
from objects in any order of keys or from arrays in the order of fields.
-/

namespace RowCast

namespace FieldType

/-- The name of a type in serialized form. -/
def serialName : FieldType → String
  | decimal _ => "decimal"
  | t => t.display

/-- The serialized form of a type: an object with its name, and with the scale of a decimal. -/
def encode : FieldType → Json
  | decimal scale => .object [("type", .string "decimal"), ("scale", .int scale.toInt)]
  | t => .object [("type", .string t.serialName)]

/-- The types without a parameter. -/
def plainTypes : List FieldType :=
  [bool, int8, int16, int32, int64, float32, float64, string, bytes, date, time, timestamp]

/-- The type without a parameter that has a given name. -/
def ofPlainName? (name : String) : Option FieldType :=
  plainTypes.find? fun t => t.serialName == name

/-- Decode the scale of a decimal type. -/
def decodeScale (j : Json) : Option Int32 :=
  (IntegerWidth.int32.decode j).map Int32.ofInt

/-- Decode a type from the entries of an object. -/
def decodeEntries (entries : List (String × Json)) : Option FieldType :=
  (Serial.required "type" Serial.decodeString entries).bind fun name =>
    if name = "decimal" then (Serial.required "scale" decodeScale entries).map decimal
    else ofPlainName? name

/-- Decode a type from its name and, for a decimal, its scale in an array. -/
def decodeItems : List Json → Option FieldType
  | [.string name] => ofPlainName? name
  | [.string name, scale] => if name = "decimal" then (decodeScale scale).map decimal else none
  | _ => none

/--
Decode a type inside `enclosing` other arrays and objects. The whole form is held back until the
name of the type is known, so every part of it must be readable and nested less than 128 deep.
-/
def decode (enclosing : Nat) (j : Json) : Option FieldType :=
  if j.isReadable = true ∧ enclosing + j.depth < 128 then
    match j with
    | .object entries => decodeEntries entries
    | .array items => decodeItems items
    | _ => none
  else none

end FieldType

namespace RecordField

/-- Decode the default of a field; a JSON null means that there is none. -/
def decodeDefault : Json → Option (Option Value)
  | .null => some none
  | j => (Value.decode j).map some

/-- The serialized form of a field, without an entry for a missing default. -/
def encode (field : RecordField) : Json :=
  .object <|
    [("name", .string field.name), ("logical_type", field.type.encode),
      ("optional", .bool field.optional)] ++
    match field.default? with
    | some value => [("default", value.encode)]
    | none => []

/--
Decode a field inside a schema, where its type is enclosed by the field, a list and the schema.
-/
def decode : Json → Option RecordField
  | .object entries => do
    let name ← Serial.required "name" Serial.decodeString entries
    let type ← Serial.required "logical_type" (FieldType.decode 3) entries
    let optional ← Serial.required "optional" Serial.decodeBool entries
    let default? ← Serial.optional "default" decodeDefault none entries
    some ⟨name, type, optional, default?⟩
  | .array (name :: type :: optional :: rest) => do
    let name ← Serial.decodeString name
    let type ← FieldType.decode 3 type
    let optional ← Serial.decodeBool optional
    let default? ← match rest with
      | [] => some none
      | [value] => decodeDefault value
      | _ => none
    some ⟨name, type, optional, default?⟩
  | _ => none

end RecordField

namespace Schema

/-- The serialized form of a schema. -/
def encode (schema : Schema) : Json :=
  .object [("name", .string schema.name), ("fields", .array (schema.fields.map RecordField.encode))]

/-- Decode the list of fields. -/
def decodeFields : Json → Option (List RecordField)
  | .array items => items.mapM RecordField.decode
  | _ => none

/-- Decode a schema. -/
def decode : Json → Option Schema
  | .object entries => do
    let name ← Serial.required "name" Serial.decodeString entries
    let fields ← Serial.required "fields" decodeFields entries
    some ⟨name, fields⟩
  | .array [name, fields] => do
    let name ← Serial.decodeString name
    let fields ← decodeFields fields
    some ⟨name, fields⟩
  | _ => none

end Schema

end RowCast

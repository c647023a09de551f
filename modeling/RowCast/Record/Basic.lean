import RowCast.Schema.Basic
import RowCast.Value.Transport

/-!
# Records

Rows of a schema. A record has one slot for each field of its schema; a slot is empty until a value
that the field accepts is put into it.
-/

namespace RowCast

/-- A record of a schema. -/
structure Record where
  schema : Schema
  /-- The stored values, in the order of the fields. -/
  slots : List (Option Value)
  deriving DecidableEq

namespace Record

/-- The record of a schema with all slots empty. -/
def empty (schema : Schema) : Record :=
  ⟨schema, List.replicate schema.size none⟩

/-- Store a value in the first field of a name, if there is one and it accepts the value. -/
def put (record : Record) (name : String) (value : Value) : Except Error Record :=
  match record.schema.field? name, record.schema.indexOf? name with
  | some field, some index =>
    match field.validate value with
    | .ok () => .ok { record with slots := record.slots.set index (some value) }
    | .error e => .error e
  | _, _ => .error (.fieldMismatch name "no such field in schema")

/-- The value stored in the first field of a name. -/
def get? (record : Record) (name : String) : Option Value :=
  (record.schema.indexOf? name).bind fun index => (record.slots[index]?).join

/-- The value stored in the first field of a name, else the default of that field. -/
def getOrDefault? (record : Record) (name : String) : Option Value :=
  (record.get? name).or ((record.schema.field? name).bind (·.default?))

/-- Whether the first field of a name holds a value, NULL included. -/
def isSet (record : Record) (name : String) : Bool :=
  (record.get? name).isSome

/-- The number of fields that hold a value. -/
def setCount (record : Record) : Nat :=
  record.slots.countP (·.isSome)

/-- The names and values of the fields that hold one, in the order of the schema. -/
def entries (record : Record) : List (String × Value) :=
  (record.schema.fields.zip record.slots).filterMap fun p => p.2.map fun v => (p.1.name, v)

/-- The JSON object that carries a record: its entries, each value in its transport form. -/
def toJson (record : Record) : Json :=
  .object (record.entries.map fun p => (p.1, p.2.toJson))

/-- Equality of records, with values and defaults compared as numbers. -/
def sameRecord (a b : Record) : Bool :=
  a.schema.sameSchema b.schema && a.slots.length == b.slots.length &&
    (a.slots.zip b.slots).all fun p =>
      match p.1, p.2 with
      | none, none => true
      | some x, some y => x.sameValue y
      | _, _ => false

end Record

end RowCast

import Mathlib.Algebra.Group.Int.Defs
import RowCast.Proofs.CalendarText
import RowCast.Proofs.DecimalText
import RowCast.Proofs.Widening
import RowCast.Serial.Schema

/-!
# Stored values and schemas come back

A value that is stored and loaded again is the same value with every bit of its payload, but for the
sign of a decimal zero and a leap second within a minute, whose text is that of the second behind
it. Only a float without a JSON number is not loaded at all. A schema comes back as its defaults do:
names may repeat, scales may be any, and a default of NULL stays apart from having none.
-/

namespace RowCast

/-- An integer between the bounds of a width is read at this width. -/
theorem IntegerWidth.decode_int (width : IntegerWidth) {n : Int} (hlow : width.least ≤ n)
    (hhigh : n < 2 ^ (width.bits - 1)) : width.decode (.int n) = some n :=
  if_pos ⟨hlow, Int.le_sub_one_of_lt hhigh⟩

/-- Bytes come back from their numbers. -/
theorem Serial.decodeByte_toNat (b : UInt8) : decodeByte (.int b.toNat) = some b := by
  have hb := b.toNat_lt
  have hread : decodeInt 0 255 (.int b.toNat) = some (b.toNat : Int) := if_pos (by omega)
  rw [decodeByte, hread, Option.map_some, Int.toNat_natCast, UInt8.ofNat_toNat]

/-- A list of encoded items comes back exactly when every item does. -/
theorem mapM_map_eq_some_iff {α β : Type} {encode : α → β} {decode : β → Option α} {l : List α} :
    (l.map encode).mapM decode = some l ↔ ∀ x ∈ l, decode (encode x) = some x := by
  induction l with
  | nil => simp
  | cons x l ih =>
    rw [List.map_cons, List.mapM_cons, List.forall_mem_cons, ← ih]
    cases decode (encode x) with
    | none => simp
    | some y => cases (l.map encode).mapM decode <;> simp

/-- A list of encoded items is loaded if every item is, each as what comes back of it. -/
theorem mapM_map_eq_ite {α β : Type} {encode : α → β} {decode : β → Option α} {loads : α → Bool}
    {stored : α → α} (h : ∀ x, decode (encode x) = if loads x then some (stored x) else none)
    (l : List α) :
    (l.map encode).mapM decode = if l.all loads then some (l.map stored) else none := by
  induction l with
  | nil => rfl
  | cons x l ih =>
    rw [List.map_cons, List.mapM_cons, h, ih, List.all_cons, List.map_cons]
    cases loads x <;> cases l.all loads <;> rfl

namespace Value

/-- Whether a value is no infinity and no float that is no number. -/
def isFinite : Value → Bool
  | float32 x => x.isFinite
  | float64 x => x.isFinite
  | _ => true

/-- The value that comes back of a value: a zero without its sign, a time as its text shows it. -/
def stored : Value → Value
  | decimal d => decimal { d with negative := d.negative && decide (d.mantissa ≠ 0) }
  | v => v.shown

/--
Whether a value comes back as it was: a finite float, any decimal but a negative zero, a time that
is in no leap second within a minute, and all else.
-/
def isStorable : Value → Bool
  | float32 x => x.isFinite
  | float64 x => x.isFinite
  | decimal d => !d.negative || d.mantissa != 0
  | time t => decide t.LeapEndsMinute
  | timestamp t => decide t.time.LeapEndsMinute
  | _ => true

/-- A value other than NULL is loaded by its variant. -/
theorem decode_encode_of_ne_null {v : Value} (h : v ≠ null) :
    decode v.encode = decodeContent v.variantName v.encodeContent := by
  cases v with
  | null => exact absurd rfl h
  | _ => rfl

/-- A float of 32 bits comes back exactly when it is finite. -/
theorem decode_encode_float32 (x : Binary32) : decode (float32 x).encode =
    if x.isFinite then some (float32 x) else none := by
  have hwide := Binary64.isFinite_ofBinary32 x
  cases hfinite : x.isFinite with
  | true =>
    simp [decode_encode_of_ne_null, variantName, encodeContent, decodeContent, Json.ofFloat, hwide,
      hfinite, Binary32.decode, Binary64.toBinary32_ofBinary32 hfinite]
  | false =>
    simp [decode_encode_of_ne_null, variantName, encodeContent, decodeContent, Json.ofFloat, hwide,
      hfinite, Binary32.decode]

/-- A float of 64 bits comes back exactly when it is finite. -/
theorem decode_encode_float64 (x : Binary64) : decode (float64 x).encode =
    if x.isFinite then some (float64 x) else none := by
  cases hfinite : x.isFinite <;>
    simp [decode_encode_of_ne_null, variantName, encodeContent, decodeContent, Json.ofFloat,
      hfinite, Binary64.decode]

/-- Of every value but an infinity and what is no number there comes back what its form tells. -/
theorem decode_encode (v : Value) : decode v.encode =
    if v.isFinite then some v.stored else none := by
  cases v with
  | null => rfl
  | bool b => rfl
  | int8 n =>
    have hread := IntegerWidth.decode_int .int8 n.le_toInt n.toInt_lt
    simp [decode_encode_of_ne_null, variantName, encodeContent, decodeContent, hread, isFinite,
      stored, shown]
  | int16 n =>
    have hread := IntegerWidth.decode_int .int16 n.le_toInt n.toInt_lt
    simp [decode_encode_of_ne_null, variantName, encodeContent, decodeContent, hread, isFinite,
      stored, shown]
  | int32 n =>
    have hread := IntegerWidth.decode_int .int32 n.le_toInt n.toInt_lt
    simp [decode_encode_of_ne_null, variantName, encodeContent, decodeContent, hread, isFinite,
      stored, shown]
  | int64 n =>
    have hread := IntegerWidth.decode_int .int64 n.le_toInt n.toInt_lt
    simp [decode_encode_of_ne_null, variantName, encodeContent, decodeContent, hread, isFinite,
      stored, shown]
  | float32 x => exact decode_encode_float32 x
  | float64 x => exact decode_encode_float64 x
  | decimal d =>
    simp [decode_encode_of_ne_null, variantName, encodeContent, decodeContent, Decimal.decode,
      Decimal.ofText?, Decimal.readPlain_text, isFinite, stored]
  | string s => rfl
  | bytes data =>
    have hread : (data.map fun b => Json.int b.toNat).mapM Serial.decodeByte = some data :=
      mapM_map_eq_some_iff.mpr fun b _ => Serial.decodeByte_toNat b
    simp [decode_encode_of_ne_null, variantName, encodeContent, decodeContent, hread, isFinite,
      stored, shown]
  | date d =>
    simp [decode_encode_of_ne_null, variantName, encodeContent, decodeContent,
      Serial.decodeString, Date.readLoose_text, isFinite, stored, shown]
  | time t =>
    simp [decode_encode_of_ne_null, variantName, encodeContent, decodeContent,
      Serial.decodeString, TimeOfDay.readLoose_text, isFinite, stored, shown]
  | timestamp t =>
    simp [decode_encode_of_ne_null, variantName, encodeContent, decodeContent,
      Serial.decodeString, Timestamp.readLoose_zuluText, isFinite, stored, shown]

/-- A value comes back as it was exactly when nothing of it is lost in its stored form. -/
theorem decode_encode_iff (v : Value) : decode v.encode = some v ↔ v.isStorable = true := by
  rw [decode_encode]
  cases v with
  | float32 x => cases hfinite : x.isFinite <;> simp [isFinite, isStorable, stored, shown, hfinite]
  | float64 x => cases hfinite : x.isFinite <;> simp [isFinite, isStorable, stored, shown, hfinite]
  | decimal d =>
    obtain ⟨negative, mantissa, scale, -, -⟩ := d
    cases negative <;> simp [isFinite, isStorable, stored]
  | time t => simp [isFinite, isStorable, stored, shown, TimeOfDay.shown_eq_self_iff]
  | timestamp t => simp [isFinite, isStorable, stored, shown, Timestamp.shown_eq_self_iff]
  | _ => exact iff_of_true rfl rfl

/-- The stored form of a value is no JSON null. -/
theorem encode_ne_null (v : Value) : v.encode ≠ .null := by
  cases v <;> simp [encode]

end Value

namespace FieldType

/-- A type inside a schema comes back, whatever its scale. -/
theorem decode_encode (type : FieldType) : decode 3 type.encode = some type := by
  cases type with
  | decimal scale =>
    have hscale : decodeScale (.int scale.toInt) = some scale := by
      have hread := IntegerWidth.decode_int .int32 scale.le_toInt scale.toInt_lt
      rw [decodeScale, hread, Option.map_some, Int32.ofInt_toInt]
    have hentries : decodeEntries [("type", .string "decimal"), ("scale", .int scale.toInt)] =
        some (decimal scale) := by
      simp [decodeEntries, Serial.required, Serial.find?, Serial.valuesAt, Serial.decodeString,
        hscale]
    exact hentries
  | _ => rfl

end FieldType

namespace RecordField

/-- A default comes back as a default, NULL included. -/
theorem decodeDefault_encode (v : Value) :
    decodeDefault v.encode = (Value.decode v.encode).map some := by
  unfold decodeDefault
  split
  · next hnull => exact absurd hnull v.encode_ne_null
  · rfl

/-- Whether the default of a field, if it has one, is finite. -/
def hasFiniteDefault (field : RecordField) : Bool :=
  field.default?.all Value.isFinite

/-- The field that comes back of a field: its default is what comes back of the default. -/
def stored (field : RecordField) : RecordField :=
  { field with default? := field.default?.map Value.stored }

/-- A field comes back as its default does. -/
theorem decode_encode (field : RecordField) : decode field.encode =
    if field.hasFiniteDefault then some field.stored else none := by
  obtain ⟨name, type, optional, default?⟩ := field
  cases default? with
  | none =>
    simp [encode, decode, Serial.required, Serial.optional, Serial.find?, Serial.valuesAt,
      Serial.decodeString, Serial.decodeBool, FieldType.decode_encode, hasFiniteDefault, stored]
  | some v =>
    simp [encode, decode, Serial.required, Serial.optional, Serial.find?, Serial.valuesAt,
      Serial.decodeString, Serial.decodeBool, FieldType.decode_encode, decodeDefault_encode,
      Value.decode_encode, hasFiniteDefault, stored]
    by_cases hfinite : v.isFinite = true <;> simp [hfinite]

/-- A field comes back as it was exactly when its default does, if it has a default. -/
theorem decode_encode_iff (field : RecordField) :
    decode field.encode = some field ↔ ∀ v ∈ field.default?, v.isStorable = true := by
  rw [decode_encode]
  obtain ⟨name, type, optional, default?⟩ := field
  cases default? with
  | none => simp [hasFiniteDefault, stored]
  | some v =>
    have hvalue := v.decode_encode_iff
    rw [Value.decode_encode] at hvalue
    cases hfinite : v.isFinite <;> simpa [hasFiniteDefault, stored, hfinite] using hvalue

end RecordField

namespace Schema

/-- Whether all defaults of a schema are finite. -/
def hasFiniteDefaults (schema : Schema) : Bool :=
  schema.fields.all RecordField.hasFiniteDefault

/-- The schema that comes back of a schema: each field as it comes back. -/
def stored (schema : Schema) : Schema :=
  { schema with fields := schema.fields.map RecordField.stored }

/-- The serialized form of a schema is decoded by its fields. -/
theorem decode_encode_eq (schema : Schema) : decode schema.encode =
    ((schema.fields.map RecordField.encode).mapM RecordField.decode).map (⟨schema.name, ·⟩) := by
  have hname : Serial.required "name" Serial.decodeString [("name", .string schema.name),
      ("fields", .array (schema.fields.map RecordField.encode))] = some schema.name := rfl
  have hfields : Serial.required "fields" decodeFields [("name", .string schema.name),
      ("fields", .array (schema.fields.map RecordField.encode))] =
        (schema.fields.map RecordField.encode).mapM RecordField.decode := rfl
  rw [encode, decode, hname, hfields]
  cases (schema.fields.map RecordField.encode).mapM RecordField.decode <;> rfl

/-- A schema comes back as its fields do. -/
theorem decode_encode (schema : Schema) : decode schema.encode =
    if schema.hasFiniteDefaults then some schema.stored else none := by
  rw [decode_encode_eq, mapM_map_eq_ite RecordField.decode_encode, hasFiniteDefaults]
  cases schema.fields.all RecordField.hasFiniteDefault <;> rfl

/-- A schema comes back as it was exactly when all its defaults do. -/
theorem decode_encode_iff (schema : Schema) : decode schema.encode = some schema ↔
    ∀ field ∈ schema.fields, ∀ v ∈ field.default?, v.isStorable = true := by
  have hfields : decode schema.encode = some schema ↔
      (schema.fields.map RecordField.encode).mapM RecordField.decode = some schema.fields := by
    rw [decode_encode_eq, Option.map_eq_some_iff]
    obtain ⟨name, fields⟩ := schema
    simp
  rw [hfields, mapM_map_eq_some_iff]
  simp only [RecordField.decode_encode_iff]

end Schema

/--
What comes back of stored forms. Every value but an infinity and a float that is no number is loaded
again, without the sign of a decimal zero and with the time that its text shows; so it is the value
that was stored unless this is a negative zero or in a leap second within a minute. A schema comes
back with what comes back of its defaults, and as it was exactly if all of them do.
-/
theorem stored_forms_read_back :
    (∀ v : Value, Value.decode v.encode = if v.isFinite then some v.stored else none) ∧
      (∀ v : Value, Value.decode v.encode = some v ↔ v.isStorable = true) ∧
      ∀ schema : Schema,
        Schema.decode schema.encode = (if schema.hasFiniteDefaults then some schema.stored
          else none) ∧
        (Schema.decode schema.encode = some schema ↔
          ∀ field ∈ schema.fields, ∀ v ∈ field.default?, v.isStorable = true) :=
  ⟨Value.decode_encode, Value.decode_encode_iff,
    fun schema => ⟨schema.decode_encode, schema.decode_encode_iff⟩⟩

/-- A time in a leap second within a minute comes back as the time in the second behind it. -/
theorem leap_second_within_minute_not_stored :
    let leap : TimeOfDay := ⟨23, 56, 4, 1333333333, by decide⟩
    let next : TimeOfDay := ⟨23, 56, 5, 333333333, by decide⟩
    Value.decode (Value.time leap).encode = some (.time next) ∧
      Value.decode (Value.time leap).encode ≠ some (.time leap) := by
  intro leap next
  have hshown : leap.shown = next := by decide
  have hback : Value.decode (Value.time leap).encode = some (.time next) := by
    rw [Value.decode_encode, if_pos (by rfl)]
    exact congrArg (fun t => some (Value.time t)) hshown
  refine ⟨hback, fun hsame => ?_⟩
  rw [hback] at hsame
  have hsecond : next.second = leap.second :=
    congrArg TimeOfDay.second (Value.time.inj (Option.some.inj hsame))
  exact absurd hsecond (by decide)

end RowCast

import RowCast.Conversion.Row

/-!
# What the columns of a row leave in a record

A record is filled by the columns of a row in order. Each column may be unreadable, of no supported
type, impossible to extract, or offer a value that no field takes; what it offers otherwise goes
into the first field of its name. A field therefore ends with the last value accepted for its name,
and a field behind another one of its name ends empty.
-/

namespace RowCast

/-- No type accepts NULL. -/
theorem FieldType.isNull_of_accepts {type : FieldType} {value : Value}
    (h : type.accepts value = true) : value.isNull = false := by
  cases value with
  | null => simp [accepts] at h
  | _ => rfl

/-- A field takes NULL where that is allowed, and what its type accepts. -/
theorem RecordField.validate_ok_iff {field : RecordField} {value : Value} :
    field.validate value = .ok () ↔
      (value = .null ∧ field.optional = true) ∨ field.type.accepts value = true := by
  constructor
  · intro h
    unfold validate at h
    split at h
    · next hnull =>
      cases value with
      | null =>
        split at h
        · next hoptional => exact .inl ⟨rfl, hoptional⟩
        · cases h
      | _ => cases hnull
    · split at h
      · next haccepts => exact .inr haccepts
      · cases h
  · rintro (⟨rfl, hoptional⟩ | haccepts)
    · simp [validate, Value.isNull, hoptional]
    · simp [validate, FieldType.isNull_of_accepts haccepts, haccepts]

namespace Schema

/-- Whether the first field of a name takes a value. -/
def takes (schema : Schema) (name : String) (value : Value) : Bool :=
  (schema.field? name).any fun field => (field.validate value).isOk

/-- The first field of a name is the one at the position of the name. -/
theorem field?_eq (schema : Schema) (name : String) :
    schema.field? name = (schema.indexOf? name).bind fun index => schema.fields[index]? :=
  List.find?_eq_bind_findIdx?_getElem?

/-- The position of a name is that of the first field that bears it. -/
theorem indexOf?_eq_some_iff {schema : Schema} {name : String} {index : Nat} :
    schema.indexOf? name = some index ↔
      ∃ field, schema.fields[index]? = some field ∧ field.name = name ∧
        ∀ j < index, ∀ other, schema.fields[j]? = some other → other.name ≠ name := by
  unfold indexOf?
  rw [List.findIdx?_eq_some_iff_getElem]
  constructor
  · rintro ⟨hindex, hname, hbefore⟩
    refine ⟨_, List.getElem?_eq_getElem hindex, by simpa using hname, fun j hj other hother => ?_⟩
    obtain ⟨hj', rfl⟩ := List.getElem?_eq_some_iff.mp hother
    simpa using hbefore j hj
  · rintro ⟨field, hfield, hname, hbefore⟩
    obtain ⟨hindex, rfl⟩ := List.getElem?_eq_some_iff.mp hfield
    refine ⟨hindex, by simpa using hname, fun j hj => ?_⟩
    simpa using hbefore j hj _ (List.getElem?_eq_getElem (by omega))

/-- A value goes to the field at a position exactly when that field is the first of the name. -/
theorem indexOf?_eq_some_iff_of_field {schema : Schema} {k : Nat} {field : RecordField}
    (hfield : schema.fields[k]? = some field) (name : String) :
    schema.indexOf? name = some k ↔ name = field.name ∧ schema.indexOf? field.name = some k := by
  constructor
  · intro h
    obtain ⟨found, hfound, rfl, -⟩ := indexOf?_eq_some_iff.mp h
    rw [hfield] at hfound
    cases hfound
    exact ⟨rfl, h⟩
  · rintro ⟨rfl, h⟩
    exact h

/-- In a schema without repeated names the position of a name is that of the field of the name. -/
theorem indexOf?_of_nodup {schema : Schema} (hnames : schema.fieldNames.Nodup) {k : Nat}
    {field : RecordField} (hfield : schema.fields[k]? = some field) :
    schema.indexOf? field.name = some k := by
  refine indexOf?_eq_some_iff.mpr ⟨field, hfield, rfl, fun j hj other hother hname => ?_⟩
  have hj' : schema.fieldNames[j]? = some field.name := by
    simp only [fieldNames, List.getElem?_map, hother, Option.map_some, hname]
  have hk' : schema.fieldNames[k]? = some field.name := by
    simp only [fieldNames, List.getElem?_map, hfield, Option.map_some]
  have hlength : j < schema.fieldNames.length := (List.getElem?_eq_some_iff.mp hj').1
  have heq : j = k := (List.getElem?_inj hlength hnames).mp (hj'.trans hk'.symm)
  omega

/-- In a schema without repeated names each field is the first of its name. -/
theorem field?_of_mem {schema : Schema} (hnames : schema.fieldNames.Nodup)
    {field : RecordField} (hfield : field ∈ schema.fields) :
    schema.field? field.name = some field := by
  obtain ⟨k, hk⟩ := List.mem_iff_getElem?.mp hfield
  rw [field?_eq, indexOf?_of_nodup hnames hk, Option.bind_some, hk]

/-- A value is taken exactly when a field has the name and its first one validates the value. -/
theorem takes_iff {schema : Schema} {name : String} {value : Value} :
    schema.takes name value = true ↔
      ∃ field, schema.field? name = some field ∧ field.validate value = .ok () := by
  unfold takes
  cases schema.field? name with
  | none => simp
  | some field =>
    cases hvalid : field.validate value with
    | error e => simp [hvalid, Except.isOk, Except.toBool]
    | ok _ => simp [hvalid, Except.isOk, Except.toBool]

end Schema

/-- The value of the last entry of a name. -/
def lastNamed (name : String) (entries : List (String × Value)) : Option Value :=
  ((entries.filter fun entry => entry.1 == name).getLast?).map (·.2)

/-- An entry counts only where no later one has its name. -/
theorem lastNamed_cons (name : String) (entry : String × Value) (rest : List (String × Value)) :
    lastNamed name (entry :: rest) =
      (lastNamed name rest).or (if entry.1 = name then some entry.2 else none) := by
  unfold lastNamed
  by_cases h : entry.1 = name
  · simp only [List.filter_cons, h, beq_self_eq_true, if_true, List.getLast?_cons]
    cases ((rest.filter fun entry => entry.1 == name).getLast?) <;> simp
  · simp [h]

/-- Where only one value goes by a name, it is the last of that name. -/
theorem lastNamed_of_unique {name : String} {entries : List (String × Value)} {value : Value}
    (hmem : (name, value) ∈ entries) (hunique : ∀ other, (name, other) ∈ entries → other = value) :
    lastNamed name entries = some value := by
  have hnamed : (name, value) ∈ entries.filter fun entry => entry.1 == name :=
    List.mem_filter.mpr ⟨hmem, by simp⟩
  have hlast := List.getLast?_eq_some_getLast (List.ne_nil_of_mem hnamed)
  have hmember := List.getLast_mem (List.ne_nil_of_mem hnamed)
  unfold lastNamed
  rw [hlast, Option.map_some]
  generalize (entries.filter fun entry => entry.1 == name).getLast _ = entry at hmember
  obtain ⟨hentry, hname⟩ := List.mem_filter.mp hmember
  have hname : entry.1 = name := by simpa using hname
  rw [hunique entry.2 (hname ▸ hentry)]

/-- The name and value that a column leaves in a record of a schema, if it leaves one. -/
def ColumnOutcome.accepted? (schema : Schema) : ColumnOutcome → Option (String × Value)
  | .extracted name value => if schema.takes name value then some (name, value) else none
  | _ => none

/-- What a schema accepts of several columns, each known by its position, in order. -/
def Schema.accepted (schema : Schema) (outcomes : List (Nat × ColumnOutcome)) :
    List (String × Value) :=
  outcomes.filterMap fun entry => entry.2.accepted? schema

namespace Record

/-- Put a value into the first field of a name, unchecked. -/
def write (record : Record) (name : String) (value : Value) : Record :=
  { record with
    slots := (record.schema.indexOf? name).elim record.slots fun index =>
      record.slots.set index (some value) }

/-- What the schema takes is written where the name stands first. -/
theorem put_of_takes {record : Record} {name : String} {value : Value}
    (h : record.schema.takes name value = true) :
    record.put name value = .ok (record.write name value) := by
  obtain ⟨field, hfield, hvalid⟩ := Schema.takes_iff.mp h
  have hindex := hfield
  rw [Schema.field?_eq] at hindex
  obtain ⟨index, hindex, -⟩ := Option.bind_eq_some_iff.mp hindex
  simp [put, write, hfield, hindex, hvalid]

/-- What the schema does not take is refused. -/
theorem put_of_not_takes {record : Record} {name : String} {value : Value}
    (h : record.schema.takes name value = false) : ∃ e, record.put name value = .error e := by
  unfold put
  split
  · next field index hfield hindex =>
    split
    · next hvalid =>
      rw [Schema.takes_iff.mpr ⟨field, hfield, hvalid⟩] at h
      cases h
    · exact ⟨_, rfl⟩
  · exact ⟨_, rfl⟩

/-- Writing keeps the schema. -/
@[simp] theorem write_schema (record : Record) (name : String) (value : Value) :
    (record.write name value).schema = record.schema := rfl

/-- Writing keeps the number of slots. -/
@[simp] theorem write_slots_length (record : Record) (name : String) (value : Value) :
    (record.write name value).slots.length = record.slots.length := by
  unfold write
  cases record.schema.indexOf? name <;> simp

/-- Storing a column writes what the schema accepts of it, and else leaves the record alone. -/
theorem store_eq (record : Record) (index : Nat) (outcome : ColumnOutcome) :
    (record.store index outcome).1 =
      match outcome.accepted? record.schema with
      | some (name, value) => record.write name value
      | none => record := by
  cases outcome with
  | extracted name value =>
    cases htakes : record.schema.takes name value with
    | true => simp [store, ColumnOutcome.accepted?, put_of_takes htakes, htakes]
    | false =>
      obtain ⟨e, he⟩ := put_of_not_takes htakes
      simp [store, ColumnOutcome.accepted?, he, htakes]
  | unreadable | unsupported | failed => rfl

/-- Storing keeps the schema. -/
@[simp] theorem store_schema (record : Record) (index : Nat) (outcome : ColumnOutcome) :
    (record.store index outcome).1.schema = record.schema := by
  rw [store_eq]
  split <;> rfl

/-- Storing keeps the number of slots. -/
@[simp] theorem store_slots_length (record : Record) (index : Nat) (outcome : ColumnOutcome) :
    (record.store index outcome).1.slots.length = record.slots.length := by
  rw [store_eq]
  split <;> simp

/-- A value is reported as rejected only if it was offered and refused. -/
theorem rejected_of_mem_store {record : Record} {index : Nat} {outcome : ColumnOutcome}
    {name : String} {e : Error} (h : .rejectedValue name e ∈ (record.store index outcome).2) :
    ∃ value, outcome = .extracted name value ∧ record.put name value = .error e := by
  unfold store at h
  split at h
  · simp at h
  · simp at h
  · simp at h
  · next field value =>
    split at h
    · simp at h
    · next cause hput =>
      simp only [List.mem_singleton, Event.rejectedValue.injEq] at h
      obtain ⟨rfl, rfl⟩ := h
      exact ⟨value, rfl, hput⟩

/-- Writing reaches the slot of a field only by its name, and only if no earlier field has it. -/
theorem write_slots {record : Record} (hlength : record.slots.length = record.schema.size)
    {k : Nat} {field : RecordField} (hfield : record.schema.fields[k]? = some field)
    (name : String) (value : Value) :
    (record.write name value).slots[k]? =
      if name = field.name ∧ record.schema.indexOf? field.name = some k then some (some value)
      else record.slots[k]? := by
  have hk : k < record.slots.length := by
    rw [hlength]
    exact (List.getElem?_eq_some_iff.mp hfield).1
  simp only [← Schema.indexOf?_eq_some_iff_of_field hfield name, write]
  cases record.schema.indexOf? name with
  | none => simp
  | some index => by_cases h : index = k <;> simp [h, hk]

/-- Store what became of several columns, each known by its position, in order. -/
def storeAll (record : Record) (outcomes : List (Nat × ColumnOutcome)) : Record :=
  outcomes.foldl (fun record entry => (record.store entry.1 entry.2).1) record

/-- The first column is stored first. -/
@[simp] theorem storeAll_cons (record : Record) (entry : Nat × ColumnOutcome)
    (rest : List (Nat × ColumnOutcome)) :
    record.storeAll (entry :: rest) = (record.store entry.1 entry.2).1.storeAll rest := rfl

/-- A row is a row of the schema that it was begun with. -/
@[simp] theorem storeAll_schema (record : Record) (outcomes : List (Nat × ColumnOutcome)) :
    (record.storeAll outcomes).schema = record.schema := by
  induction outcomes generalizing record with
  | nil => rfl
  | cons entry rest ih => rw [storeAll_cons, ih, store_schema]

/-- A row keeps one slot for each field. -/
@[simp] theorem storeAll_slots_length (record : Record) (outcomes : List (Nat × ColumnOutcome)) :
    (record.storeAll outcomes).slots.length = record.slots.length := by
  induction outcomes generalizing record with
  | nil => rfl
  | cons entry rest ih => rw [storeAll_cons, ih, store_slots_length]

/-- What is reported of columns that are lost while several are stored, in order. -/
def losses : Record → List (Nat × ColumnOutcome) → List Event
  | _, [] => []
  | record, entry :: rest =>
    (record.store entry.1 entry.2).2 ++ (record.store entry.1 entry.2).1.losses rest

/-- A column without a counterpart is passed over in silence, and so is one that leaves a value. -/
theorem store_log_of_accepted {record : Record} {index : Nat} {outcome : ColumnOutcome}
    (h : outcome = .unsupported ∨ (outcome.accepted? record.schema).isSome) :
    (record.store index outcome).2 = [] := by
  rcases h with rfl | h
  · rfl
  · cases outcome with
    | extracted name value =>
      cases htakes : record.schema.takes name value with
      | true => simp [store, put_of_takes htakes]
      | false => simp [ColumnOutcome.accepted?, htakes] at h
    | unreadable | unsupported | failed => simp [ColumnOutcome.accepted?] at h

/-- Nothing is reported of columns that have no counterpart or leave a value. -/
theorem losses_eq_nil {record : Record} {outcomes : List (Nat × ColumnOutcome)}
    (h : ∀ entry ∈ outcomes,
      entry.2 = .unsupported ∨ (entry.2.accepted? record.schema).isSome) :
    record.losses outcomes = [] := by
  induction outcomes generalizing record with
  | nil => rfl
  | cons entry rest ih =>
    have hrest : (record.store entry.1 entry.2).1.losses rest = [] := by
      apply ih
      intro other hother
      rw [store_schema]
      exact h other (List.mem_cons_of_mem _ hother)
    rw [losses, store_log_of_accepted (h entry List.mem_cons_self), hrest, List.append_nil]

/--
The slot of the first field of a name ends with the last value accepted for the name, and keeps what
it had if there is none; the slot of any other field is never reached.
-/
theorem storeAll_slots {record : Record} (hlength : record.slots.length = record.schema.size)
    {k : Nat} {field : RecordField} (hfield : record.schema.fields[k]? = some field)
    {slot : Option Value} (hslot : record.slots[k]? = some slot)
    (outcomes : List (Nat × ColumnOutcome)) :
    (record.storeAll outcomes).slots[k]? =
      if record.schema.indexOf? field.name = some k then
        some ((lastNamed field.name (record.schema.accepted outcomes)).or slot)
      else some slot := by
  -- The slot may change at each step, so the induction is over all records and slots.
  induction outcomes generalizing record slot with
  | nil => simp [storeAll, Schema.accepted, lastNamed, hslot]
  | cons entry rest ih =>
    rw [storeAll_cons]
    cases haccepted : entry.2.accepted? record.schema with
    | none =>
      rw [store_eq, haccepted, Schema.accepted, List.filterMap_cons, haccepted]
      exact ih hlength hfield hslot
    | some named =>
      rw [store_eq, haccepted, Schema.accepted, List.filterMap_cons, haccepted]
      have hwritten := write_slots hlength hfield named.1 named.2
      have hlength' : (record.write named.1 named.2).slots.length = record.schema.size := by
        simpa using hlength
      by_cases hnamed : named.1 = field.name ∧ record.schema.indexOf? field.name = some k
      · rw [if_pos hnamed] at hwritten
        rw [ih hlength' hfield hwritten]
        simp [lastNamed_cons, Schema.accepted, hnamed]
      · rw [if_neg hnamed, hslot] at hwritten
        rw [ih hlength' hfield hwritten]
        by_cases hfirst : record.schema.indexOf? field.name = some k
        · have hname : named.1 ≠ field.name := fun h => hnamed ⟨h, hfirst⟩
          simp [lastNamed_cons, Schema.accepted, hfirst, hname]
        · simp [hfirst]

/-- From an empty record only what was accepted for a name remains, in its first field. -/
theorem storeAll_empty_slots {schema : Schema} {k : Nat} {field : RecordField}
    (hfield : schema.fields[k]? = some field) (outcomes : List (Nat × ColumnOutcome)) :
    ((empty schema).storeAll outcomes).slots[k]? =
      some (if schema.indexOf? field.name = some k then
        lastNamed field.name (schema.accepted outcomes) else none) := by
  have hk : k < schema.size := (List.getElem?_eq_some_iff.mp hfield).1
  have hslot : (empty schema).slots[k]? = some none := by simp [empty, hk]
  have hlength : (empty schema).slots.length = (empty schema).schema.size := by simp [empty]
  rw [storeAll_slots hlength hfield hslot outcomes, Option.or_none]
  change (if schema.indexOf? field.name = some k then _ else _) = _
  split <;> rfl

end Record

end RowCast

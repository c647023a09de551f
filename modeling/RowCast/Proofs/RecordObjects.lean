import RowCast.Proofs.Storing
import RowCast.Proofs.Transport

/-!
# Records as JSON objects

A record that is filled by puts, in whatever order and whether or not they are taken, holds values
only in the first field of each name, and only values that this field has validated. So no key of
its JSON object is written twice, and the object tells the record apart from all others of its
schema that show something else in one of their values.
-/

namespace RowCast

/-- Values that a field takes and that travel alike show the same, floats left aside. -/
theorem RecordField.shown_eq_of_toJson_eq {field : RecordField} (hexact : field.type.isExact = true)
    {v w : Value} (hv : field.validate v = .ok ()) (hw : field.validate w = .ok ())
    (h : v.toJson = w.toJson) : v.shown = w.shown := by
  rcases validate_ok_iff.mp hv with ⟨rfl, -⟩ | hv <;>
    rcases validate_ok_iff.mp hw with ⟨rfl, -⟩ | hw
  · rfl
  · exact absurd h.symm (Value.toJson_ne_null hexact hw)
  · exact absurd h (Value.toJson_ne_null hexact hv)
  · exact Value.shown_eq_of_toJson_eq hexact hv hw h

namespace Record

/-- Try to put a value into the first field of a name; a value that is refused changes nothing. -/
def tryPut (record : Record) (name : String) (value : Value) : Record :=
  match record.put name value with
  | .ok filled => filled
  | .error _ => record

/-- Try to put several values, in order. -/
def tryPuts (record : Record) (puts : List (String × Value)) : Record :=
  puts.foldl (fun record entry => record.tryPut entry.1 entry.2) record

/-- Trying to put a value writes it where the schema takes it. -/
theorem tryPut_eq (record : Record) (name : String) (value : Value) :
    record.tryPut name value =
      if record.schema.takes name value then record.write name value else record := by
  cases htakes : record.schema.takes name value with
  | true => simp [tryPut, put_of_takes htakes]
  | false =>
    obtain ⟨e, he⟩ := put_of_not_takes htakes
    simp [tryPut, he]

/--
A record has one slot for each field, and a value only in the first field of a name, which has
validated it.
-/
structure Sound (record : Record) : Prop where
  length : record.slots.length = record.schema.size
  stored {k : Nat} {field : RecordField} {v : Value} :
    record.schema.fields[k]? = some field → record.slots[k]? = some (some v) →
      record.schema.indexOf? field.name = some k ∧ field.validate v = .ok ()

/-- An empty record is sound. -/
theorem sound_empty (schema : Schema) : (empty schema).Sound where
  length := by simp [empty]
  stored {k field v} _ hslot := by
    simp [empty, List.getElem?_replicate] at hslot

/-- Writing a value that the schema takes keeps a record sound. -/
theorem Sound.write {record : Record} (h : record.Sound) {name : String} {value : Value}
    (htakes : record.schema.takes name value = true) : (record.write name value).Sound where
  length := by simpa using h.length
  stored {k field v} hfield hslot := by
    rw [write_schema] at hfield ⊢
    rw [write_slots h.length hfield] at hslot
    split at hslot
    · next hwritten =>
      obtain ⟨rfl, hindex⟩ := hwritten
      cases hslot
      obtain ⟨first, hfirst, hvalid⟩ := Schema.takes_iff.mp htakes
      rw [Schema.field?_eq, hindex, Option.bind_some, hfield] at hfirst
      cases hfirst
      exact ⟨hindex, hvalid⟩
    · exact h.stored hfield hslot

/-- Trying to put a value keeps the schema. -/
@[simp] theorem tryPut_schema (record : Record) (name : String) (value : Value) :
    (record.tryPut name value).schema = record.schema := by
  rw [tryPut_eq]
  split <;> rfl

/-- Trying to put a value keeps a record sound. -/
theorem Sound.tryPut {record : Record} (h : record.Sound) (name : String) (value : Value) :
    (record.tryPut name value).Sound := by
  rw [tryPut_eq]
  split
  · next htakes => exact h.write htakes
  · exact h

/-- Trying to put several values keeps the schema. -/
@[simp] theorem tryPuts_schema (record : Record) (puts : List (String × Value)) :
    (record.tryPuts puts).schema = record.schema := by
  induction puts generalizing record with
  | nil => rfl
  | cons entry puts ih => exact (ih _).trans (tryPut_schema ..)

/-- Trying to put several values keeps a record sound. -/
theorem Sound.tryPuts {record : Record} (h : record.Sound) (puts : List (String × Value)) :
    (record.tryPuts puts).Sound := by
  induction puts generalizing record with
  | nil => exact h
  | cons entry puts ih => exact ih (h.tryPut entry.1 entry.2)

/-- An entry of a record is a value in one of its fields, under the name of the field. -/
theorem mem_entries_iff {record : Record} {name : String} {v : Value} :
    (name, v) ∈ record.entries ↔ ∃ (k : Nat) (field : RecordField),
      record.schema.fields[k]? = some field ∧ record.slots[k]? = some (some v) ∧
        field.name = name := by
  unfold entries
  rw [List.mem_filterMap]
  constructor
  · rintro ⟨⟨field, slot⟩, hmem, hentry⟩
    obtain ⟨w, rfl, hw⟩ := Option.map_eq_some_iff.mp hentry
    cases hw
    obtain ⟨k, hk⟩ := List.mem_iff_getElem?.mp hmem
    obtain ⟨hfield, hslot⟩ := List.getElem?_zip_eq_some.mp hk
    exact ⟨k, field, hfield, hslot, rfl⟩
  · rintro ⟨k, field, hfield, hslot, rfl⟩
    refine ⟨(field, some v), List.mem_iff_getElem?.mpr ⟨k, ?_⟩, rfl⟩
    exact List.getElem?_zip_eq_some.mpr ⟨hfield, hslot⟩

/-- A record with a slot for each field has an entry for each value that it holds. -/
theorem length_entries {record : Record} (h : record.slots.length = record.schema.size) :
    record.entries.length = record.setCount := by
  obtain ⟨⟨name, fields⟩, slots⟩ := record
  change slots.length = fields.length at h
  unfold entries setCount
  dsimp only
  induction slots generalizing fields with
  | nil => simp
  | cons slot slots ih =>
    cases fields with
    | nil => cases h
    | cons field fields =>
      have hrest := ih fields (Nat.succ.inj h)
      cases slot with
      | none => simpa using hrest
      | some v => simpa using hrest

/-- A sound record finds under a name just what its entries have there. -/
theorem Sound.get?_eq_some_iff {record : Record} (h : record.Sound) {name : String} {v : Value} :
    record.get? name = some v ↔ (name, v) ∈ record.entries := by
  rw [mem_entries_iff]
  constructor
  · intro hget
    obtain ⟨k, hindex, hslot⟩ := Option.bind_eq_some_iff.mp hget
    obtain ⟨field, hfield, hname, -⟩ := Schema.indexOf?_eq_some_iff.mp hindex
    exact ⟨k, field, hfield, Option.join_eq_some_iff.mp hslot, hname⟩
  · rintro ⟨k, field, hfield, hslot, rfl⟩
    simp [get?, (h.stored hfield hslot).1, hslot]

/-- No two entries of a sound record have the same name. -/
theorem Sound.nodup_names {record : Record} (h : record.Sound) :
    (record.entries.map (·.1)).Nodup := by
  unfold entries
  rw [List.Nodup, List.pairwise_map, List.pairwise_filterMap, List.pairwise_iff_getElem]
  intro i j hi hj hij first hfirst second hsecond hnames
  -- Each of two entries comes from the first field of its name, so equal names are one field.
  obtain ⟨hfieldi, hsloti⟩ := List.getElem?_zip_eq_some.mp (List.getElem?_eq_getElem hi)
  obtain ⟨hfieldj, hslotj⟩ := List.getElem?_zip_eq_some.mp (List.getElem?_eq_getElem hj)
  obtain ⟨v, hv, rfl⟩ := Option.map_eq_some_iff.mp hfirst
  obtain ⟨w, hw, rfl⟩ := Option.map_eq_some_iff.mp hsecond
  have hindexi := (h.stored hfieldi (hsloti.trans (congrArg some hv))).1
  have hindexj := (h.stored hfieldj (hslotj.trans (congrArg some hw))).1
  dsimp only at hnames
  rw [hnames, hindexj] at hindexi
  cases hindexi
  exact absurd hij (Nat.lt_irrefl _)

/-- The slots of a sound record hold what it finds under the names of their fields. -/
theorem Sound.slot_eq {record : Record} (h : record.Sound) {k : Nat} {field : RecordField}
    (hfield : record.schema.fields[k]? = some field) :
    record.slots[k]? = some (if record.schema.indexOf? field.name = some k
      then record.get? field.name else none) := by
  have hk : k < record.slots.length := by
    rw [h.length]
    exact (List.getElem?_eq_some_iff.mp hfield).1
  have hslot := List.getElem?_eq_getElem hk
  cases hvalue : record.slots[k] with
  | none =>
    rw [hvalue] at hslot
    rw [hslot]
    split
    · next hindex => simp [get?, hindex, hslot]
    · rfl
  | some v =>
    rw [hvalue] at hslot
    have hindex := (h.stored hfield hslot).1
    simp [get?, hindex, hslot]

/-- The record that the texts of a record show. -/
def shown (record : Record) : Record :=
  { record with slots := record.slots.map (Option.map Value.shown) }

/-- What the texts of a record show is found under the same names. -/
theorem get?_shown (record : Record) (name : String) :
    record.shown.get? name = (record.get? name).map Value.shown := by
  simp only [get?, shown, List.getElem?_map]
  cases record.schema.indexOf? name with
  | none => rfl
  | some k => cases hslot : record.slots[k]? <;> simp [hslot]

/-- The texts of sound records of one schema show the same if they do so under all names. -/
theorem Sound.shown_eq_of_get? {a b : Record} (ha : a.Sound) (hb : b.Sound)
    (hschema : b.schema = a.schema)
    (hget : ∀ name, (b.get? name).map Value.shown = (a.get? name).map Value.shown) :
    b.shown = a.shown := by
  have hslots : b.slots.map (Option.map Value.shown) = a.slots.map (Option.map Value.shown) := by
    refine List.ext_getElem? fun k => ?_
    rw [List.getElem?_map, List.getElem?_map]
    cases hfield : a.schema.fields[k]? with
    | none =>
      have hk : a.schema.size ≤ k := List.getElem?_eq_none_iff.mp hfield
      rw [List.getElem?_eq_none (by rw [hb.length, hschema]; exact hk),
        List.getElem?_eq_none (by rw [ha.length]; exact hk)]
    | some field =>
      have hshown := hget field.name
      rw [ha.slot_eq hfield, hb.slot_eq (hschema ▸ hfield), hschema]
      split <;> simp [hshown]
  rw [shown, shown, hschema, hslots]

/-- The members of the JSON object that carries a record. -/
def members (record : Record) : List (String × Json) :=
  record.entries.map fun p => (p.1, p.2.toJson)

/-- A member is the JSON of what the record finds under a name. -/
theorem Sound.mem_members_iff {record : Record} (h : record.Sound) {name : String} {j : Json} :
    (name, j) ∈ record.members ↔ ∃ v, record.get? name = some v ∧ v.toJson = j := by
  simp only [members, List.mem_map, h.get?_eq_some_iff]
  constructor
  · rintro ⟨⟨_, v⟩, hmem, hmember⟩
    cases hmember
    exact ⟨v, hmem, rfl⟩
  · rintro ⟨v, hmem, rfl⟩
    exact ⟨(name, v), hmem, rfl⟩

/-- What a sound record finds under a name is validated by a field of the name. -/
theorem Sound.exists_field {record : Record} (h : record.Sound) {name : String} {v : Value}
    (hget : record.get? name = some v) :
    ∃ field, record.schema.field? name = some field ∧ field.validate v = .ok () := by
  obtain ⟨k, field, hfield, hslot, rfl⟩ := mem_entries_iff.mp (h.get?_eq_some_iff.mp hget)
  obtain ⟨hindex, hvalid⟩ := h.stored hfield hslot
  exact ⟨field, by rw [Schema.field?_eq, hindex, Option.bind_some, hfield], hvalid⟩

/-- The texts of a record are those of the record that they show. -/
theorem members_shown (record : Record) : record.shown.members = record.members := by
  obtain ⟨⟨name, fields⟩, slots⟩ := record
  unfold members entries shown
  dsimp only
  rw [List.zip_map_right, List.filterMap_map, List.map_filterMap, List.map_filterMap]
  congr 1
  funext ⟨field, slot⟩
  cases slot <;> simp [Value.toJson_shown]

/-- A sound record shows what another one does, if its members are members of that. -/
theorem Sound.get?_of_members {a b : Record} (ha : a.Sound) (hb : b.Sound)
    (hschema : b.schema = a.schema) (hexact : ∀ field ∈ a.schema.fields, field.type.isExact = true)
    (hmembers : a.members ⊆ b.members) {name : String} {v : Value} (hget : a.get? name = some v) :
    ∃ w, b.get? name = some w ∧ w.shown = v.shown := by
  obtain ⟨w, hother, hjson⟩ := hb.mem_members_iff.mp
    (hmembers (ha.mem_members_iff.mpr ⟨v, hget, rfl⟩))
  obtain ⟨field, hfield, hvalid⟩ := ha.exists_field hget
  obtain ⟨field', hfield', hvalid'⟩ := hb.exists_field hother
  rw [hschema, hfield] at hfield'
  cases hfield'
  exact ⟨w, hother, RecordField.shown_eq_of_toJson_eq
    (hexact field (List.mem_of_find?_eq_some hfield)) hvalid' hvalid hjson⟩

/-- Sound records of a schema without floats have the same members exactly if they show the same. -/
theorem Sound.perm_members_iff {a b : Record} (ha : a.Sound) (hb : b.Sound)
    (hschema : b.schema = a.schema)
    (hexact : ∀ field ∈ a.schema.fields, field.type.isExact = true) :
    b.members.Perm a.members ↔ b.shown = a.shown := by
  constructor
  · intro h
    refine ha.shown_eq_of_get? hb hschema fun name => ?_
    cases hget : a.get? name with
    | some v =>
      obtain ⟨w, hother, hshown⟩ := ha.get?_of_members hb hschema hexact h.symm.subset hget
      simp [hother, hshown]
    | none =>
      cases hother : b.get? name with
      | none => rfl
      | some w =>
        obtain ⟨v, hv, -⟩ := hb.get?_of_members ha hschema.symm (hschema ▸ hexact) h.subset hother
        cases hget.symm.trans hv
  · intro h
    rw [← b.members_shown, h, a.members_shown]

/--
Records that show the same have values in the same fields, and values in no leap second within a
minute are the same in both.
-/
theorem values_of_shown_eq {a b : Record} (h : b.shown = a.shown) (name : String) :
    (b.get? name).isSome = (a.get? name).isSome ∧
      ∀ v ∈ b.get? name, ∀ w ∈ a.get? name, v.LeapEndsMinute → w.LeapEndsMinute → v = w := by
  have hget : (b.get? name).map Value.shown = (a.get? name).map Value.shown := by
    rw [← get?_shown, ← get?_shown, h]
  refine ⟨by simpa using congrArg Option.isSome hget, fun v hv w hw hvleap hwleap => ?_⟩
  rw [Option.mem_def.mp hv, Option.mem_def.mp hw, Option.map_some, Option.map_some,
    Value.shown_eq_self_iff.mpr hvleap, Value.shown_eq_self_iff.mpr hwleap] at hget
  exact Option.some.inj hget

/--
The JSON object of a record that was filled by puts has one member for each value, under the name of
its field, and no two under one name. In a schema without floats the members, in whatever order,
determine what the record shows: its values are the same in all records with these members, but for
those in a leap second within a minute, which share their texts with the second behind it.
-/
theorem toJson_determines_shown {schema : Schema}
    (hexact : ∀ field ∈ schema.fields, field.type.isExact = true) (puts : List (String × Value)) :
    let record := (empty schema).tryPuts puts
    ∃ members, record.toJson = .object members ∧ members.length = record.setCount ∧
      (members.map (·.1)).Nodup ∧
      (∀ name j, (name, j) ∈ members ↔ ∃ (k : Nat) (field : RecordField) (v : Value),
        schema.fields[k]? = some field ∧ record.slots[k]? = some (some v) ∧
          field.name = name ∧ v.toJson = j) ∧
      ∀ others otherMembers, ((empty schema).tryPuts others).toJson = .object otherMembers →
        let other := (empty schema).tryPuts others
        (otherMembers.Perm members ↔ other.shown = record.shown) ∧
        (otherMembers.Perm members → ∀ name,
          (other.get? name).isSome = (record.get? name).isSome ∧
          ∀ v ∈ other.get? name, ∀ w ∈ record.get? name,
            v.LeapEndsMinute → w.LeapEndsMinute → v = w) := by
  intro record
  have hsound : record.Sound := (sound_empty schema).tryPuts puts
  have hschema : record.schema = schema := tryPuts_schema ..
  refine ⟨record.members, rfl, ?_, ?_, fun name j => ?_, ?_⟩
  · rw [members, List.length_map, length_entries hsound.length]
  · have hnames : record.members.map (·.1) = record.entries.map (·.1) := by simp [members]
    rw [hnames]
    exact hsound.nodup_names
  · simp only [hsound.mem_members_iff, hsound.get?_eq_some_iff, mem_entries_iff, hschema]
    constructor
    · rintro ⟨v, ⟨k, field, hfield, hslot, hname⟩, hj⟩
      exact ⟨k, field, v, hfield, hslot, hname, hj⟩
    · rintro ⟨k, field, v, hfield, hslot, hname, hj⟩
      exact ⟨v, ⟨k, field, hfield, hslot, hname⟩, hj⟩
  · intro others otherMembers hother other
    cases hother
    have hexact' : ∀ field ∈ record.schema.fields, field.type.isExact = true := by
      rwa [hschema]
    have hiff : other.members.Perm record.members ↔ other.shown = record.shown :=
      hsound.perm_members_iff ((sound_empty schema).tryPuts others)
        ((tryPuts_schema ..).trans hschema.symm) hexact'
    exact ⟨hiff, fun hperm name => values_of_shown_eq (hiff.mp hperm) name⟩

/--
A negative zero, a text for the second field of its name and a leap second: the text is refused, and
with a positive zero the members differ.
-/
theorem toJson_determines_shown_of_shared_name :
    let schema : Schema := ⟨"t", [⟨"n", .decimal 2, true, none⟩, ⟨"n", .string, true, none⟩,
      ⟨"at", .time, false, none⟩]⟩
    let puts (negative : Bool) : List (String × Value) :=
      [("n", .decimal ⟨negative, 0, 2, by decide, by decide⟩), ("n", .string "x"),
        ("at", .time ⟨23, 59, 59, 1500000000, by decide⟩)]
    (∀ field ∈ schema.fields, field.type.isExact = true) ∧
      ∃ members, ((empty schema).tryPuts (puts true)).toJson = .object members ∧
        members.length = 2 ∧ (members.map (·.1)).Nodup ∧
        ∀ otherMembers, ((empty schema).tryPuts (puts false)).toJson = .object otherMembers →
          ¬ otherMembers.Perm members := by
  intro schema puts
  have hexact : ∀ field ∈ schema.fields, field.type.isExact = true := by decide
  obtain ⟨members, hjson, hlength, hnames, -, hsame⟩ := toJson_determines_shown hexact (puts true)
  refine ⟨hexact, members, hjson, hlength.trans (by decide), hnames, fun other hother hperm => ?_⟩
  exact absurd ((hsame _ other hother).1.mp hperm) (by decide)

/--
A leap second within a minute and the second behind it, in one field of two records: they are two
records with one object.
-/
theorem toJson_eq_of_leap_second_within_minute :
    let schema : Schema := ⟨"t", [⟨"at", .time, false, none⟩]⟩
    let leap : TimeOfDay := ⟨23, 56, 4, 1333333333, by decide⟩
    let next : TimeOfDay := ⟨23, 56, 5, 333333333, by decide⟩
    let record (t : TimeOfDay) : Record := (empty schema).tryPuts [("at", .time t)]
    (record leap).toJson = (record next).toJson ∧
      (record leap).get? "at" = some (.time leap) ∧ (record next).get? "at" = some (.time next) ∧
      leap ≠ next := by
  intro schema leap next record
  have hshown : leap.shown = next := by decide
  refine ⟨?_, rfl, rfl, by decide⟩
  change Json.object [("at", (Value.time leap).toJson)] = .object [("at", (Value.time next).toJson)]
  rw [← hshown, ← Value.toJson_shown (.time leap)]
  rfl

end Record

end RowCast

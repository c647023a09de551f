import Mathlib.Data.Finset.Card
import RowCast.Proofs.Accounting
import RowCast.Proofs.RecordObjects

/-!
# How puts fill a record

A record that is filled by puts, some taken and some refused, is known from the puts that were taken
alone: it finds under each name the last value that was, and lists the names in the order of its
schema, each at the first field of the name. Fields behind another one of their name stay empty.
-/

namespace RowCast

/--
Going through a list and passing over what has the key of something before it comes to each key
once, in the order of first appearance.
-/
theorem filterMap_firsts {α κ β : Type} [BEq κ] [LawfulBEq κ] (key : α → κ) (f : κ → Option β)
    (l : List α) :
    (l.zipIdx.filterMap fun p =>
      if l.findIdx? (fun x => key x == key p.1) = some p.2 then f (key p.1) else none) =
      (l.map key).eraseDups.filterMap f := by
  induction l using List.reverseRecOn with
  | nil => rfl
  | append_singleton l a ih =>
    have hbefore : (l.zipIdx.filterMap fun p =>
        if (l ++ [a]).findIdx? (fun x => key x == key p.1) = some p.2 then f (key p.1) else none) =
        (l.map key).eraseDups.filterMap f := by
      rw [← ih]
      apply List.filterMap_congr
      rintro ⟨b, k⟩ hmem
      have hb : b ∈ l := List.mem_of_getElem? (List.mem_zipIdx_iff_getElem?.mp hmem)
      obtain ⟨i, hi⟩ : ∃ i, l.findIdx? (fun x => key x == key b) = some i :=
        Option.isSome_iff_exists.mp
          (List.findIdx?_isSome.trans (List.any_eq_true.mpr ⟨b, hb, by simp⟩))
      simp only [List.findIdx?_append, hi, Option.some_or]
    rw [List.zipIdx_append, List.filterMap_append, hbefore, List.map_append, List.eraseDups_append,
      List.filterMap_append]
    congr 1
    -- The last element counts exactly where no earlier one has its key.
    have hlast : (l ++ [a]).findIdx? (fun x => key x == key a) =
        (l.findIdx? fun x => key x == key a).or (some l.length) := by
      simp [List.findIdx?_append]
    cases hfound : l.findIdx? (fun x => key x == key a) with
    | some i =>
      obtain ⟨hi, hkey, -⟩ := List.findIdx?_eq_some_iff_getElem.mp hfound
      have hseen : key a ∈ l.map key :=
        List.mem_map.mpr ⟨l[i], List.getElem_mem hi, by simpa using hkey⟩
      rw [hfound] at hlast
      simp [hlast, Nat.ne_of_lt hi, List.removeAll, hseen]
    | none =>
      have hnew : key a ∉ l.map key := by
        intro hmem
        obtain ⟨b, hb, hkey⟩ := List.mem_map.mp hmem
        have hother := List.findIdx?_eq_none_iff.mp hfound b hb
        simp [hkey] at hother
      rw [hfound] at hlast
      simp [List.filterMap_cons, hlast, List.removeAll, hnew, List.eraseDups_cons]

/-- There is a last entry of a name exactly if there is an entry of the name. -/
theorem lastNamed_isSome_iff {name : String} {entries : List (String × Value)} :
    (lastNamed name entries).isSome = true ↔ name ∈ entries.map (·.1) := by
  induction entries with
  | nil => simp [lastNamed]
  | cons entry rest ih =>
    rw [lastNamed_cons, Option.isSome_or, Bool.or_eq_true, ih, List.map_cons, List.mem_cons]
    by_cases h : entry.1 = name
    · simp [h]
    · simp [h, Ne.symm h]

namespace Record

variable {record filled : Record} {name : String} {value : Value}

/-- A put succeeds where the schema takes the value, and then the value is written. -/
theorem put_eq_ok_iff : record.put name value = .ok filled ↔
    record.schema.takes name value = true ∧ filled = record.write name value := by
  cases htakes : record.schema.takes name value with
  | true => simp [put_of_takes htakes, eq_comm]
  | false =>
    obtain ⟨e, he⟩ := put_of_not_takes htakes
    simp [he]

/-- The puts that are taken, of several that are made one after the other. -/
def taken : Record → List (String × Value) → List (String × Value)
  | _, [] => []
  | record, (name, value) :: rest =>
    match record.put name value with
    | .ok filled => (name, value) :: filled.taken rest
    | .error _ => record.taken rest

/-- Under each name a record finds what was last put there and taken, or what it had before. -/
theorem Sound.get?_tryPuts (h : record.Sound) (puts : List (String × Value)) (name : String) :
    (record.tryPuts puts).get? name =
      (lastNamed name (record.taken puts)).or (record.get? name) := by
  induction puts generalizing record with
  | nil => rfl
  | cons entry rest ih =>
    obtain ⟨other, value⟩ := entry
    change ((record.tryPut other value).tryPuts rest).get? name = _
    cases htakes : record.schema.takes other value with
    | true =>
      have hwritten := ih (h.write htakes)
      rw [get?_write h.length htakes] at hwritten
      rw [tryPut_eq, if_pos htakes, hwritten, taken, put_of_takes htakes, lastNamed_cons,
        Option.or_assoc]
      by_cases hname : name = other
      · simp [hname]
      · simp [hname, Ne.symm hname]
    | false =>
      obtain ⟨e, he⟩ := put_of_not_takes htakes
      rw [tryPut_eq, if_neg (by simp [htakes]), ih h, taken, he]

/-- The slots of a sound record are its findings at the first fields of the names. -/
theorem Sound.slots_eq (h : record.Sound) :
    record.slots = record.schema.fields.zipIdx.map fun p =>
      if record.schema.indexOf? p.1.name = some p.2 then record.get? p.1.name else none := by
  refine List.ext_getElem? fun k => ?_
  rw [List.getElem?_map, List.getElem?_zipIdx, Nat.zero_add]
  cases hfield : record.schema.fields[k]? with
  | none =>
    have hk : record.schema.size ≤ k := List.getElem?_eq_none_iff.mp hfield
    exact List.getElem?_eq_none (h.length ▸ hk)
  | some field => exact h.slot_eq hfield

/-- A sound record lists what it finds under the names of its schema, in their order. -/
theorem Sound.entries_eq (h : record.Sound) :
    record.entries = record.schema.fieldNames.eraseDups.filterMap fun name =>
      (record.get? name).map fun v => (name, v) := by
  have hslots : record.schema.fields.zip record.slots = record.schema.fields.zipIdx.map fun p =>
      (p.1, if record.schema.indexOf? p.1.name = some p.2 then record.get? p.1.name
        else none) := by
    rw [← List.zip_map', List.zipIdx_map_fst, ← h.slots_eq]
  have hfirsts := filterMap_firsts RecordField.name
    (fun name => (record.get? name).map fun v => (name, v)) record.schema.fields
  unfold entries
  rw [hslots, List.filterMap_map, Schema.fieldNames, ← hfirsts]
  apply List.filterMap_congr
  rintro ⟨field, k⟩ -
  dsimp only [Function.comp_apply]
  change _ = if record.schema.indexOf? field.name = some k then _ else _
  split <;> rfl

/-- A sound record fills as many slots as there are names under which it finds something. -/
theorem Sound.setCount_eq_card (h : record.Sound) {names : List String}
    (hnames : ∀ name, name ∈ names ↔ (record.get? name).isSome = true) :
    record.setCount = names.toFinset.card := by
  have hsame : names.toFinset = (record.entries.map (·.1)).toFinset := by
    ext name
    rw [List.mem_toFinset, List.mem_toFinset, hnames, Option.isSome_iff_exists, List.mem_map]
    simp only [h.get?_eq_some_iff]
    constructor
    · rintro ⟨v, hv⟩
      exact ⟨_, hv, rfl⟩
    · rintro ⟨⟨_, v⟩, hv, rfl⟩
      exact ⟨v, hv⟩
  rw [hsame, List.toFinset_card_of_nodup h.nodup_names, List.length_map, length_entries h.length]

/-- A put that is taken changes the slot of the first field of its name and no other. -/
theorem slots_of_put_ok (hlength : record.slots.length = record.schema.size)
    (h : record.put name value = .ok filled) :
    filled.schema = record.schema ∧ ∃ index, record.schema.indexOf? name = some index ∧
      ∀ k : Nat, filled.slots[k]? = if k = index then some (some value) else record.slots[k]? := by
  obtain ⟨htakes, rfl⟩ := put_eq_ok_iff.mp h
  obtain ⟨index, hindex, hinside⟩ := exists_slot_of_takes hlength htakes
  refine ⟨rfl, index, hindex, fun k => ?_⟩
  by_cases hk : k = index
  · subst hk
    simp [write, hindex, hinside]
  · simp [write, hindex, List.getElem?_set_ne (Ne.symm hk), hk]

/--
A record that is filled by any puts has one slot for each field. A slot that is set is that of the
first field of its name, and it holds NULL where that is allowed, or a value of the type of the
field. A further put is taken exactly if a field has the name and its first one validates the value.
It then changes the slot of this field alone, and otherwise nothing.

So the record finds under each name what was last put there and taken. It has as many slots set as
there are such names, it lists them in the order of its schema, and it falls back to the default of
a field only where the field has no value.
-/
theorem tryPuts_invariant (schema : Schema) (puts : List (String × Value)) :
    let record := (empty schema).tryPuts puts
    let taken := (empty schema).taken puts
    record.schema = schema ∧ record.slots.length = schema.size ∧
    (∀ (k : Nat) (field : RecordField) (v : Value), schema.fields[k]? = some field →
      record.slots[k]? = some (some v) →
        ((v = .null ∧ field.optional = true) ∨ field.type.accepts v = true) ∧
          ∀ j < k, ∀ other, schema.fields[j]? = some other → other.name ≠ field.name) ∧
    (∀ name value,
      ((∃ filled, record.put name value = .ok filled) ↔
        ∃ field, schema.field? name = some field ∧ field.validate value = .ok ()) ∧
      (∀ filled, record.put name value = .ok filled →
        record.tryPut name value = filled ∧ filled.schema = schema ∧
          ∃ index, schema.indexOf? name = some index ∧ ∀ k : Nat, filled.slots[k]? =
            if k = index then some (some value) else record.slots[k]?) ∧
      ∀ e, record.put name value = .error e → record.tryPut name value = record) ∧
    (∀ name, record.get? name = lastNamed name taken) ∧
    record.setCount = (taken.map (·.1)).toFinset.card ∧
    record.entries = (schema.fieldNames.eraseDups.filterMap fun name =>
      (lastNamed name taken).map fun v => (name, v)) ∧
    ∀ name, record.getOrDefault? name =
      match record.get? name with
      | some v => some v
      | none => (schema.field? name).bind (·.default?) := by
  intro record taken
  have hsound : record.Sound := (sound_empty schema).tryPuts puts
  have hschema : record.schema = schema := tryPuts_schema ..
  have hget (name : String) : record.get? name = lastNamed name taken := by
    rw [(sound_empty schema).get?_tryPuts, get?_empty, Option.or_none]
  refine ⟨hschema, hschema ▸ hsound.length, ?_, ?_, hget, ?_, ?_, ?_⟩
  · intro k field v hfield hslot
    rw [← hschema] at hfield ⊢
    obtain ⟨hindex, hvalid⟩ := hsound.stored hfield hslot
    obtain ⟨-, -, -, hfirst⟩ := Schema.indexOf?_eq_some_iff.mp hindex
    exact ⟨RecordField.validate_ok_iff.mp hvalid, hfirst⟩
  · intro name value
    refine ⟨?_, fun filled hput => ?_, fun e hput => ?_⟩
    · rw [← hschema, ← Schema.takes_iff]
      simp [put_eq_ok_iff]
    · have htried : record.tryPut name value = filled := by simp [tryPut, hput]
      obtain ⟨hkept, hslots⟩ := slots_of_put_ok hsound.length hput
      rw [hschema] at hkept hslots
      exact ⟨htried, hkept, hslots⟩
    · simp [tryPut, hput]
  · apply hsound.setCount_eq_card
    intro name
    rw [hget, lastNamed_isSome_iff]
  · rw [hsound.entries_eq, hschema]
    simp only [hget]
  · intro name
    unfold getOrDefault?
    rw [hschema]
    cases record.get? name <;> rfl

/--
Of five puts three are refused: NULL for a required field, a text for a number although a later
field of the name takes texts, and a value for no field. The second number replaces the first.
-/
theorem tryPuts_invariant_for_shared_name :
    let schema : Schema := ⟨"t", [⟨"id", .int32, false, none⟩,
      ⟨"note", .string, true, some (.string "-")⟩, ⟨"id", .string, true, none⟩]⟩
    let puts : List (String × Value) := [("id", .int32 1), ("id", .null), ("id", .string "x"),
      ("id", .int32 2), ("other", .int32 3)]
    let record := (empty schema).tryPuts puts
    record.setCount = 1 ∧ record.get? "id" = some (.int32 2) ∧ record.slots[2]? = some none ∧
      record.entries = [("id", .int32 2)] ∧ record.getOrDefault? "note" = some (.string "-") := by
  intro schema puts record
  obtain ⟨-, -, -, -, hget, hcount, hentries, hdefault⟩ := tryPuts_invariant schema puts
  exact ⟨hcount.trans (by decide), (hget "id").trans (by decide), by decide,
    hentries.trans (by decide), (hdefault "note").trans (by decide)⟩

end Record

end RowCast

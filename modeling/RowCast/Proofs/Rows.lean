import RowCast.Proofs.Extraction
import RowCast.Proofs.Storing
import RowCast.Source.Table

/-!
# The record of a row

A row is stored column by column, each as it turns out when its turn comes, in whatever state the
reads before have left the source. So the record of a row has in the first field of each name the
last value that was accepted for the name, and only the number of columns can make the row fail.
-/

namespace RowCast

namespace RowSource

variable {σ β χ ξ : Type}

/-- What becomes of the columns at the given positions, read in order. -/
def outcomes (row : RowSource σ β χ ξ) (settings : Settings) :
    List Nat → σ → List (Nat × ColumnOutcome)
  | [], _ => []
  | index :: rest, s =>
    (index, (row.readColumn settings index s).1) ::
      row.outcomes settings rest (row.readColumn settings index s).2.2

/-- A row is stored as its columns turn out when they are read in order. -/
theorem storeColumns_record (row : RowSource σ β χ ξ) (settings : Settings) (indices : List Nat)
    (record : Record) (s : σ) :
    (row.storeColumns settings indices record s).1 =
      record.storeAll (row.outcomes settings indices s) := by
  induction indices generalizing record s with
  | nil => rfl
  | cons index rest ih =>
    rw [outcomes, Record.storeAll_cons, ← ih]
    rfl

/--
An event of a row is reported while a column is read, or tells of a column that was lost when it
was stored behind the ones before it.
-/
theorem mem_storeColumns_log {row : RowSource σ β χ ξ} {settings : Settings} {P : Event → Prop}
    (hread : ∀ index s, ∀ event ∈ (row.readColumn settings index s).2.1, P event)
    {indices : List Nat} {record : Record} {s : σ} {event : Event}
    (h : event ∈ (row.storeColumns settings indices record s).2.1) :
    P event ∨
      ∃ before entry after, row.outcomes settings indices s = before ++ entry :: after ∧
        event ∈ ((record.storeAll before).store entry.1 entry.2).2 := by
  induction indices generalizing record s with
  | nil => cases h
  | cons index rest ih =>
    change event ∈ (row.readColumn settings index s).2.1 ++
      (record.store index (row.readColumn settings index s).1).2 ++
        (row.storeColumns settings rest (record.store index (row.readColumn settings index s).1).1
          (row.readColumn settings index s).2.2).2.1 at h
    rcases List.mem_append.mp h with h | h
    · rcases List.mem_append.mp h with h | h
      · exact .inl (hread index s event h)
      · exact .inr ⟨[], _, _, rfl, h⟩
    · rcases ih h with hreported | ⟨before, entry, after, houtcomes, hlost⟩
      · exact .inl hreported
      · exact .inr ⟨_ :: before, entry, after, congrArg (List.cons _) houtcomes, hlost⟩

/--
The names and values that the columns at the given positions, read in order, leave in a record of a
schema. A column leaves its value if its type and name are readable, extraction gives a value, and
the first field of its name takes it.
-/
def accepted (row : RowSource σ β χ ξ) (schema : Schema) (settings : Settings) :
    List Nat → σ → List (String × Value)
  | [], _ => []
  | index :: rest, s =>
    match row.identify index s with
    | (.error _, s) => row.accepted schema settings rest s
    | (.ok (columnType, name), s) =>
      match row.extract index columnType settings s with
      | (.ok (some value), _, s) =>
        if schema.takes name value then (name, value) :: row.accepted schema settings rest s
        else row.accepted schema settings rest s
      | (.ok none, _, s) => row.accepted schema settings rest s
      | (.error _, _, s) => row.accepted schema settings rest s

/-- What the columns of a row leave in a record is what the schema accepts of their outcomes. -/
theorem accepted_eq (row : RowSource σ β χ ξ) (schema : Schema) (settings : Settings)
    (indices : List Nat) (s : σ) :
    row.accepted schema settings indices s =
      schema.accepted (row.outcomes settings indices s) := by
  induction indices generalizing s with
  | nil => rfl
  | cons index rest ih =>
    rw [outcomes, Schema.accepted, List.filterMap_cons]
    unfold accepted readColumn
    rcases row.identify index s with ⟨_ | ⟨columnType, name⟩, t⟩
    · exact ih t
    · dsimp only
      rcases row.extract index columnType settings t with ⟨_ | _ | value, log, u⟩
      · exact ih u
      · exact ih u
      · cases htakes : schema.takes name value with
        | true => simp [ColumnOutcome.accepted?, htakes, ih u, Schema.accepted]
        | false => simp [ColumnOutcome.accepted?, htakes, ih u, Schema.accepted]

/-- A row makes a record exactly when the number of its columns is known. -/
theorem toRecord_of_count {row : RowSource σ β χ ξ} {s : σ} {count : Nat}
    (h : (row.columnCount s).1 = .ok count) (schema : Schema) (settings : Settings) :
    row.toRecord schema settings s =
      let stored := row.storeColumns settings (List.range count) (.empty schema)
        (row.columnCount s).2
      (.ok stored.1, stored.2.1, stored.2.2) :=
  Traced.bind_lift_of_ok h _

/-- The record of a row holds what its columns left, in the slots of the empty record. -/
theorem toRecord_answer {row : RowSource σ β χ ξ} {s : σ} {count : Nat}
    (h : (row.columnCount s).1 = .ok count) (schema : Schema) (settings : Settings) :
    (row.toRecord schema settings s).1 =
      .ok ((Record.empty schema).storeAll
        (row.outcomes settings (List.range count) (row.columnCount s).2)) := by
  rw [toRecord_of_count h, ← storeColumns_record]

/-- A row whose number of columns cannot be read fails as that read does. -/
theorem toRecord_of_count_error {row : RowSource σ β χ ξ} {s : σ} {e : Error}
    (h : (row.columnCount s).1 = .error e) (schema : Schema) (settings : Settings) :
    row.toRecord schema settings s = (.error e, [], (row.columnCount s).2) :=
  Traced.bind_lift_of_error h _

/--
A row fails exactly when the number of its columns cannot be read, and as that read does. Otherwise
the slot of the first field of a name holds the last value accepted from the columns of that name,
or nothing if there is none, and the slot of a field behind another of its name is empty. This holds
for every schema, related to the row or not, and however metadata, reads, handles and the null
indicator behave.
-/
theorem toRecord_last_accepted (row : RowSource σ β χ ξ) (schema : Schema) (settings : Settings)
    (s : σ) :
    (∀ e, (row.toRecord schema settings s).1 = .error e ↔ (row.columnCount s).1 = .error e) ∧
      ∀ count, (row.columnCount s).1 = .ok count →
        ∃ record, (row.toRecord schema settings s).1 = .ok record ∧ record.schema = schema ∧
          record.slots.length = schema.size ∧
          ∀ (k : Nat) (field : RecordField), schema.fields[k]? = some field →
            ((∀ j < k, ∀ other : RecordField,
                schema.fields[j]? = some other → other.name ≠ field.name) →
              record.slots[k]? = some (lastNamed field.name
                (row.accepted schema settings (List.range count) (row.columnCount s).2))) ∧
            ((∃ j < k, ∃ other : RecordField,
                schema.fields[j]? = some other ∧ other.name = field.name) →
              record.slots[k]? = some none) := by
  constructor
  · intro e
    cases hcount : (row.columnCount s).1 with
    | error cause => simp [toRecord_of_count_error hcount]
    | ok count => simp [toRecord_answer hcount]
  · intro count hcount
    refine ⟨_, toRecord_answer hcount schema settings, by simp [Record.empty],
      by simp [Record.empty], fun k field hfield => ?_⟩
    rw [Record.storeAll_empty_slots hfield, accepted_eq]
    constructor
    · intro hfirst
      have hindex : schema.indexOf? field.name = some k :=
        Schema.indexOf?_eq_some_iff.mpr ⟨field, hfield, rfl, hfirst⟩
      rw [if_pos hindex]
    · rintro ⟨j, hj, other, hother, hname⟩
      have hindex : schema.indexOf? field.name ≠ some k := by
        intro h
        obtain ⟨-, -, -, hfirst⟩ := Schema.indexOf?_eq_some_iff.mp h
        exact hfirst j hj other hother hname
      rw [if_neg hindex]

/-- Two columns of one name: the second value stands, and the second field of the name is empty. -/
theorem toRecord_last_accepted_of_shared_name :
    let schema : Schema := ⟨"t", [⟨"x", .int32, true, none⟩, ⟨"x", .int32, true, none⟩]⟩
    let table : ResultTable :=
      ⟨[⟨"a", "x", .integer, .unknown, true, 0, 0⟩, ⟨"b", "x", .integer, .unknown, true, 0, 0⟩],
        [[.value (.int32 1), .value (.int32 2)]], some 0, false, 0⟩
    (ResultTable.rowSource.columnCount table).1 = .ok 2 ∧
      ∃ record, (ResultTable.rowSource.toRecord schema .standard table).1 = .ok record ∧
        record.slots[0]? = some (some (.int32 2)) ∧ record.slots[1]? = some none := by
  intro schema table
  obtain ⟨record, hrecord, -, -, hslots⟩ :=
    (toRecord_last_accepted ResultTable.rowSource schema .standard table).2 2 rfl
  refine ⟨rfl, record, hrecord, ?_, ?_⟩
  · rw [(hslots 0 ⟨"x", .int32, true, none⟩ rfl).1 fun j hj => absurd hj (Nat.not_lt_zero j)]
    decide
  · exact (hslots 1 ⟨"x", .int32, true, none⟩ rfl).2
      ⟨0, Nat.zero_lt_one, ⟨"x", .int32, true, none⟩, rfl, rfl⟩

end RowSource

end RowCast

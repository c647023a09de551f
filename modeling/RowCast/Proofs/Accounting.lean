import Mathlib.Data.List.Basic
import RowCast.Proofs.Rows
import RowCast.Source.Faulty

/-!
# No column is lost in silence

Each column of a row has its turn: it is identified, extracted and put into the record that the
columns before it have left. A turn ends with a value in the record, with one warning, or, where the
type of the column has no counterpart, with neither. If the readable columns have names of their
own, no value displaces another, and the columns of a row add up.

Releases that fail are reported as well. They are no warnings, and they lose nothing.
-/

namespace RowCast

/-- What is reported as lost. -/
def warnings (log : List Event) : List Event :=
  log.filter fun event => event.severity = .warn

/-- The warnings of two parts of a log follow each other. -/
@[simp] theorem warnings_append (log more : List Event) :
    warnings (log ++ more) = warnings log ++ warnings more :=
  List.filter_append ..

/-- Failed releases are no warnings. -/
theorem warnings_of_onlyFailedReleases {log : List Event} (h : OnlyFailedReleases log) :
    warnings log = [] := by
  refine List.filter_eq_nil_iff.mpr fun event hevent => ?_
  obtain ⟨cause, rfl⟩ := h event hevent
  simp [Event.severity]

namespace Record

variable {record : Record} {name : String} {value : Value}

/-- An empty record has nothing under any name. -/
theorem get?_empty (schema : Schema) (name : String) : (empty schema).get? name = none := by
  unfold get?
  cases (empty schema).schema.indexOf? name with
  | none => rfl
  | some index =>
    simp only [Option.bind_some, empty, List.getElem?_replicate]
    split <;> rfl

/-- An empty record has no slot filled. -/
theorem setCount_empty (schema : Schema) : (empty schema).setCount = 0 := by
  simp [setCount, empty]

/-- A value that is taken under a name has a slot to go to. -/
theorem exists_slot_of_takes (hlength : record.slots.length = record.schema.size)
    (htakes : record.schema.takes name value = true) :
    ∃ index, record.schema.indexOf? name = some index ∧ index < record.slots.length := by
  obtain ⟨field, hfield, -⟩ := Schema.takes_iff.mp htakes
  rw [Schema.field?_eq] at hfield
  obtain ⟨index, hindex, hfound⟩ := Option.bind_eq_some_iff.mp hfield
  refine ⟨index, hindex, ?_⟩
  rw [hlength]
  exact (List.getElem?_eq_some_iff.mp hfound).1

/-- What was written under a name is found under it, and what other names have stays. -/
theorem get?_write (hlength : record.slots.length = record.schema.size)
    (htakes : record.schema.takes name value = true) (other : String) :
    (record.write name value).get? other =
      if other = name then some value else record.get? other := by
  obtain ⟨index, hindex, hinside⟩ := exists_slot_of_takes hlength htakes
  unfold get?
  rw [write_schema]
  by_cases hname : other = name
  · subst hname
    simp [write, hindex, hinside]
  · rw [if_neg hname]
    cases hother : record.schema.indexOf? other with
    | none => rfl
    | some place =>
      -- Two names never lead to the same place, so the slot of the other name is not touched.
      have hplace : index ≠ place := by
        rintro rfl
        obtain ⟨_, hthis, rfl, -⟩ := Schema.indexOf?_eq_some_iff.mp hindex
        obtain ⟨_, hthat, rfl, -⟩ := Schema.indexOf?_eq_some_iff.mp hother
        rw [hthis] at hthat
        cases hthat
        exact hname rfl
      simp [write, hindex, List.getElem?_set_ne hplace]

/-- A value under a name that had none fills one more slot. -/
theorem setCount_write (hlength : record.slots.length = record.schema.size)
    (htakes : record.schema.takes name value = true) (hunset : record.get? name = none) :
    (record.write name value).setCount = record.setCount + 1 := by
  obtain ⟨index, hindex, hinside⟩ := exists_slot_of_takes hlength htakes
  have hempty : record.slots[index] = none := by
    simpa [get?, hindex, hinside] using hunset
  simp [setCount, write, hindex, List.countP_set, hinside, hempty]

end Record

/-- The turn of a column: its position, the record so far and the state it finds the source in. -/
structure Turn (σ : Type) where
  index : Nat
  record : Record
  state : σ

namespace Metadata

variable {σ : Type}

/-- One of the lookups that identify a column fails; they are made one after the other. -/
def Unreadable (metadata : Metadata σ) (index : Nat) (s : σ) : Prop :=
  let typed := metadata.columnType index s
  let labelled := metadata.columnLabel index typed.2
  let named := metadata.columnName index labelled.2
  (∃ e, typed.1 = .error e) ∨
    (∃ code, typed.1 = .ok code) ∧
      ((∃ e, labelled.1 = .error e) ∨
        (∃ label, labelled.1 = .ok label) ∧ ∃ e, named.1 = .error e)

/-- A column cannot be identified exactly when its type, its label or its name is unreadable. -/
theorem identify_error_iff {metadata : Metadata σ} {index : Nat} {s : σ} :
    (∃ e, (metadata.identify index s).1 = .error e) ↔ metadata.Unreadable index s := by
  unfold identify Unreadable
  cases htype : (metadata.columnType index s).1 with
  | error e => simp [Step.bind_of_error htype, htype]
  | ok code =>
    rw [Step.bind_of_ok htype]
    cases hlabel : (metadata.columnLabel index (metadata.columnType index s).2).1 with
    | error e => simp [Step.bind_of_error hlabel, hlabel, htype]
    | ok label =>
      rw [Step.bind_of_ok hlabel]
      cases hname : (metadata.columnName index
          (metadata.columnLabel index (metadata.columnType index s).2).2).1 with
      | error e => simp [Step.bind_of_error hname, hname, hlabel, htype]
      | ok name => simp [Step.bind_of_ok hname, hname, hlabel, htype]

end Metadata

namespace RowSource

variable {σ β χ ξ : Type}

/-- The turns of the columns at the given positions, in order. -/
def turns (row : RowSource σ β χ ξ) (settings : Settings) :
    List Nat → Record → σ → List (Turn σ)
  | [], _, _ => []
  | index :: rest, record, s =>
    let (outcome, _, next) := row.readColumn settings index s
    ⟨index, record, s⟩ :: row.turns settings rest (record.store index outcome).1 next

/-- The field name of a column in its turn, if the column is readable. -/
def nameIn? (row : RowSource σ β χ ξ) (turn : Turn σ) : Option String :=
  match (row.identify turn.index turn.state).1 with
  | .ok (_, name) => some name
  | .error _ => none

/-- What extraction answers for a column in its turn, if the column is readable. -/
def extractionIn? (row : RowSource σ β χ ξ) (settings : Settings) (turn : Turn σ) :
    Option (Except Error (Option Value)) :=
  match row.identify turn.index turn.state with
  | (.ok (columnType, _), s) => some (row.extract turn.index columnType settings s).1
  | (.error _, _) => none

/-- What a column reports in its turn: first what reading it does, then whether it is lost. -/
def reportIn (row : RowSource σ β χ ξ) (settings : Settings) (turn : Turn σ) : List Event :=
  let (outcome, log, _) := row.readColumn settings turn.index turn.state
  log ++ (turn.record.store turn.index outcome).2

/-- What becomes of a column in its turn. -/
def outcomeIn (row : RowSource σ β χ ξ) (settings : Settings) (turn : Turn σ) : ColumnOutcome :=
  (row.readColumn settings turn.index turn.state).1

/-- A column is lost in its turn: unreadable, not extracted because of a failure, or refused. -/
inductive Lost (row : RowSource σ β χ ξ) (settings : Settings) (turn : Turn σ) : Prop where
  | unreadable (h : row.Unreadable turn.index turn.state)
  | failed {e : Error} (h : row.extractionIn? settings turn = some (.error e))
  | rejected {name : String} {value : Value} {e : Error} (hname : row.nameIn? turn = some name)
    (hvalue : row.extractionIn? settings turn = some (.ok (some value)))
    (hput : turn.record.put name value = .error e)

/-- A column turns out as its identification and its extraction do. -/
theorem turn_cases (row : RowSource σ β χ ξ) (settings : Settings) (turn : Turn σ) :
    (row.Unreadable turn.index turn.state ∧ row.nameIn? turn = none ∧
        row.extractionIn? settings turn = none ∧
        ∃ e, row.outcomeIn settings turn = .unreadable e) ∨
      ∃ columnType name answer, ¬ row.Unreadable turn.index turn.state ∧
        row.nameIn? turn = some name ∧ row.extractionIn? settings turn = some answer ∧
        row.outcomeIn settings turn =
          match answer with
          | .error e => .failed name columnType e
          | .ok none => .unsupported
          | .ok (some value) => .extracted name value := by
  unfold nameIn? extractionIn? outcomeIn readColumn
  rw [← Metadata.identify_error_iff]
  rcases row.identify turn.index turn.state with ⟨_ | ⟨columnType, name⟩, s⟩
  · exact .inl ⟨⟨_, rfl⟩, rfl, rfl, _, rfl⟩
  · refine .inr ⟨columnType, name, _, by simp, rfl, rfl, ?_⟩
    dsimp only
    rcases row.extract turn.index columnType settings s with ⟨_ | _ | value, log, next⟩ <;> rfl

/-- The warnings of a turn come from storing the column; reading it gives none. -/
theorem warnings_reportIn_eq (row : RowSource σ β χ ξ) (settings : Settings) (turn : Turn σ) :
    warnings (row.reportIn settings turn) =
      warnings (turn.record.store turn.index (row.outcomeIn settings turn)).2 := by
  simp only [reportIn, warnings_append, outcomeIn,
    warnings_of_onlyFailedReleases (row.readColumn_log settings turn.index turn.state),
    List.nil_append]

/-- A turn warns of a loss once, and of nothing else. -/
theorem warnings_reportIn (row : RowSource σ β χ ξ) (settings : Settings) (turn : Turn σ) :
    (warnings (row.reportIn settings turn)).length ≤ 1 ∧
      (warnings (row.reportIn settings turn) ≠ [] ↔ row.Lost settings turn) := by
  rw [warnings_reportIn_eq]
  rcases row.turn_cases settings turn with
    ⟨hunreadable, -, -, e, houtcome⟩ |
      ⟨columnType, name, answer, hreadable, hname, hanswer, houtcome⟩
  · rw [houtcome]
    exact ⟨Nat.le_refl 1, fun _ => .unreadable hunreadable, fun _ => List.cons_ne_nil _ _⟩
  · rw [houtcome]
    cases answer with
    | error e => exact ⟨Nat.le_refl 1, fun _ => .failed hanswer, fun _ => List.cons_ne_nil _ _⟩
    | ok value? =>
      cases value? with
      | none =>
        refine ⟨Nat.zero_le 1, fun h => absurd rfl h, fun h => ?_⟩
        cases h with
        | unreadable h => exact absurd h hreadable
        | failed h => simp [hanswer] at h
        | rejected _ h => simp [hanswer] at h
      | some value =>
        cases hput : turn.record.put name value with
        | error e =>
          simp only [Record.store, hput]
          exact ⟨Nat.le_refl 1, fun _ => .rejected hname hanswer hput,
            fun _ => List.cons_ne_nil _ _⟩
        | ok stored =>
          simp only [Record.store, hput]
          refine ⟨Nat.zero_le 1, fun h => absurd rfl h, fun h => ?_⟩
          cases h with
          | unreadable h => exact absurd h hreadable
          | failed h => simp [hanswer] at h
          | rejected hname' hvalue hrejected =>
            rw [hname] at hname'
            rw [hanswer] at hvalue
            cases hname'
            cases hvalue
            rw [hput] at hrejected
            cases hrejected

/-- The columns have their turns in the order of their positions. -/
theorem turns_map_index (row : RowSource σ β χ ξ) (settings : Settings) (indices : List Nat)
    (record : Record) (s : σ) :
    (row.turns settings indices record s).map Turn.index = indices := by
  induction indices generalizing record s with
  | nil => rfl
  | cons index rest ih => simp [turns, ih]

/-- Columns that are stored one after the other report what each reports in its turn. -/
theorem storeColumns_log (row : RowSource σ β χ ξ) (settings : Settings) (indices : List Nat)
    (record : Record) (s : σ) :
    (row.storeColumns settings indices record s).2.1 =
      (row.turns settings indices record s).flatMap (row.reportIn settings) := by
  induction indices generalizing record s with
  | nil => rfl
  | cons index rest ih => simp only [storeColumns, turns, List.flatMap_cons, reportIn, ih]

/-- A turn leaves alone what the record has under other names than that of its column. -/
theorem get?_store_of_ne (row : RowSource σ β χ ξ) (settings : Settings) (turn : Turn σ)
    (hlength : turn.record.slots.length = turn.record.schema.size) {other : String}
    (hother : row.nameIn? turn ≠ some other) :
    (turn.record.store turn.index (row.outcomeIn settings turn)).1.get? other =
      turn.record.get? other := by
  rcases row.turn_cases settings turn with
    ⟨-, -, -, e, houtcome⟩ | ⟨columnType, name, answer, -, hname, -, houtcome⟩
  · rw [houtcome]
    rfl
  · rw [houtcome]
    rcases answer with e | _ | value
    · rfl
    · rfl
    · cases htakes : turn.record.schema.takes name value with
      | true =>
        have hne : other ≠ name := fun h => hother (h ▸ hname)
        simp [Record.store, Record.put_of_takes htakes, Record.get?_write hlength htakes, hne]
      | false =>
        obtain ⟨e, he⟩ := Record.put_of_not_takes htakes
        simp [Record.store, he]

/-- A turn fills a slot, if its name has no value yet, or it warns, or it is passed over. -/
theorem setCount_store (row : RowSource σ β χ ξ) (settings : Settings) (turn : Turn σ)
    (hlength : turn.record.slots.length = turn.record.schema.size)
    (hunset : ∀ name, row.nameIn? turn = some name → turn.record.get? name = none) :
    turn.record.setCount + 1 =
      (turn.record.store turn.index (row.outcomeIn settings turn)).1.setCount +
        (warnings (row.reportIn settings turn)).length +
        if row.extractionIn? settings turn = some (.ok none) then 1 else 0 := by
  rw [warnings_reportIn_eq]
  rcases row.turn_cases settings turn with
    ⟨-, -, hanswer, e, houtcome⟩ | ⟨columnType, name, answer, -, hname, hanswer, houtcome⟩
  · simp [houtcome, hanswer, Record.store, warnings, Event.severity]
  · rw [houtcome, hanswer]
    rcases answer with e | _ | value
    · simp [Record.store, warnings, Event.severity]
    · simp [Record.store, warnings]
    · cases htakes : turn.record.schema.takes name value with
      | true =>
        simp [Record.store, Record.put_of_takes htakes,
          Record.setCount_write hlength htakes (hunset name hname), warnings]
      | false =>
        obtain ⟨e, he⟩ := Record.put_of_not_takes htakes
        simp [Record.store, he, warnings, Event.severity]

/--
Where the readable columns among those still to come have names of their own, under which the record
has nothing yet, each of them fills one more slot, is warned of, or is passed over.
-/
theorem setCount_storeColumns {row : RowSource σ β χ ξ} {settings : Settings} {indices : List Nat}
    {record : Record} {s : σ} (hlength : record.slots.length = record.schema.size)
    (hnames : ((row.turns settings indices record s).filterMap row.nameIn?).Nodup)
    (hunset : ∀ name ∈ (row.turns settings indices record s).filterMap row.nameIn?,
      record.get? name = none) :
    record.setCount + indices.length =
      (row.storeColumns settings indices record s).1.setCount +
        (warnings (row.storeColumns settings indices record s).2.1).length +
        (row.turns settings indices record s).countP fun turn =>
          row.extractionIn? settings turn = some (.ok none) := by
  induction indices generalizing record s with
  | nil => simp [storeColumns, turns, warnings]
  | cons index rest ih =>
    let turn : Turn σ := ⟨index, record, s⟩
    have hcons : row.turns settings (index :: rest) record s =
        turn :: row.turns settings rest (record.store index (row.outcomeIn settings turn)).1
          (row.readColumn settings index s).2.2 := rfl
    have hstored : (row.storeColumns settings (index :: rest) record s).1 =
        (row.storeColumns settings rest (record.store index (row.outcomeIn settings turn)).1
          (row.readColumn settings index s).2.2).1 := rfl
    have hlog : (row.storeColumns settings (index :: rest) record s).2.1 =
        row.reportIn settings turn ++
          (row.storeColumns settings rest (record.store index (row.outcomeIn settings turn)).1
            (row.readColumn settings index s).2.2).2.1 := rfl
    rw [hcons] at hnames hunset
    rw [hcons, hstored, hlog]
    have hturn := setCount_store row settings turn hlength fun name hname =>
      hunset name (List.mem_filterMap.mpr ⟨turn, List.mem_cons_self, hname⟩)
    change record.setCount + 1 =
      (record.store index (row.outcomeIn settings turn)).1.setCount + _ + _ at hturn
    have hmore : (row.turns settings rest (record.store index (row.outcomeIn settings turn)).1
        (row.readColumn settings index s).2.2).filterMap row.nameIn? ⊆
          (turn :: row.turns settings rest (record.store index (row.outcomeIn settings turn)).1
            (row.readColumn settings index s).2.2).filterMap row.nameIn? :=
      (List.sublist_cons_self turn _).filterMap row.nameIn? |>.subset
    have hkept : (record.store index (row.outcomeIn settings turn)).1.slots.length =
        (record.store index (row.outcomeIn settings turn)).1.schema.size := by
      simpa using hlength
    have hrest := ih hkept
      (((List.sublist_cons_self turn _).filterMap row.nameIn?).nodup hnames) fun other hother => by
        -- The names to come differ from this one, so the record still has nothing under them.
        have hne : row.nameIn? turn ≠ some other := by
          intro hname
          rw [List.filterMap_cons_some hname] at hnames
          exact (List.nodup_cons.mp hnames).1 hother
        rw [← hunset other (hmore hother)]
        exact get?_store_of_ne row settings turn hlength hne
    simp only [List.length_cons, warnings_append, List.length_append, List.countP_cons,
      decide_eq_true_eq]
    omega

/--
A row accounts for each of its columns. It reports what they report in their turns, in order; a turn
warns at most once, and exactly if the column is lost: unreadable, failed, or refused by the record.
If the readable columns have names of their own, each column is set in the record, is warned of, or
is passed over because extraction answers nothing for it.
-/
theorem toRecord_accounts {row : RowSource σ β χ ξ} {schema : Schema} {settings : Settings} {s : σ}
    {record : Record} (h : (row.toRecord schema settings s).1 = .ok record) :
    ∃ count, (row.columnCount s).1 = .ok count ∧
      let turns := row.turns settings (List.range count) (.empty schema) (row.columnCount s).2
      let log := (row.toRecord schema settings s).2.1
      turns.map Turn.index = List.range count ∧
      log = turns.flatMap (row.reportIn settings) ∧
      (∀ turn ∈ turns, (warnings (row.reportIn settings turn)).length ≤ 1 ∧
        (warnings (row.reportIn settings turn) ≠ [] ↔ row.Lost settings turn)) ∧
      ((turns.filterMap row.nameIn?).Nodup →
        count = record.setCount + (warnings log).length +
          turns.countP fun turn => row.extractionIn? settings turn = some (.ok none)) := by
  cases hcount : (row.columnCount s).1 with
  | error e =>
    rw [toRecord_of_count_error hcount] at h
    cases h
  | ok count =>
    rw [toRecord_of_count hcount] at h ⊢
    cases h
    refine ⟨count, rfl, turns_map_index .., storeColumns_log .., fun turn _ =>
      row.warnings_reportIn settings turn, fun hnames => ?_⟩
    have hempty : (Record.empty schema).slots.length = (Record.empty schema).schema.size := by
      simp [Record.empty]
    have hsum := setCount_storeColumns hempty hnames fun name _ => Record.get?_empty schema name
    rwa [Record.setCount_empty, Nat.zero_add, List.length_range] at hsum

/--
Of five columns one is set; one is NULL in a required field, one fails, one has no readable label,
and one is of an unsupported type. Three of them are warned of, and one is passed over.
-/
theorem toRecord_accounts_for_five_columns :
    let schema : Schema := ⟨"t", [⟨"id", .int32, false, none⟩, ⟨"note", .string, true, none⟩]⟩
    let columns : List Column :=
      [⟨"id", "", .integer, .noNulls, true, 0, 0⟩, ⟨"tags", "", .array, .unknown, true, 0, 0⟩,
        ⟨"note", "", .varChar, .unknown, true, 0, 0⟩, ⟨"bad", "", .integer, .unknown, true, 0, 0⟩,
        ⟨"dark", "", .varChar, .unknown, true, 0, 0⟩]
    let table : ResultTable :=
      ⟨columns, [[.null, .null, .value (.string "a"), .failing "gone", .null]], some 0, false, 0⟩
    let row := Faulty.rowSource ResultTable.rowSource
    let s : Faulty ResultTable := ⟨table, [⟨.columnLabel, some 4, "lost", 0⟩], none⟩
    ∃ record log, (row.toRecord schema .standard s).1 = .ok record ∧
      (row.toRecord schema .standard s).2.1 = log ∧
      record.setCount = 1 ∧ (warnings log).length = 3 ∧
      ((row.turns .standard (List.range 5) (.empty schema) s).filterMap row.nameIn?).Nodup ∧
      5 = record.setCount + (warnings log).length +
        (row.turns .standard (List.range 5) (.empty schema) s).countP fun turn =>
          row.extractionIn? .standard turn = some (.ok none) := by
  intro schema columns table row s
  have hrecord : (row.toRecord schema .standard s).1 =
      .ok ⟨schema, [none, some (.string "a")]⟩ := by rfl
  have hnames : ((row.turns .standard (List.range 5) (.empty schema) s).filterMap
      row.nameIn?).Nodup := by decide
  obtain ⟨count, hcount, -, -, -, hsum⟩ := toRecord_accounts hrecord
  cases hcount
  exact ⟨_, _, hrecord, rfl, by decide, by decide, hnames, hsum hnames⟩

end RowSource

end RowCast

import Mathlib.Algebra.GroupWithZero.Nat
import RowCast.Proofs.Cells
import RowCast.Proofs.Rows

/-!
# How rows of tables are read

What becomes of the columns of the current row of a table depends on the columns and the row alone,
in whatever order and after whatever reads they are looked at. The record of the row, the losses
reported on the way and the handles opened for it follow from that.
-/

namespace RowCast

namespace ResultTable

variable {t : ResultTable} {index : Nat} {cell : Cell}

/-- Two tables have the same columns and rows and stand at the same position. -/
structure SameRow (t u : ResultTable) : Prop where
  columns : u.columns = t.columns
  rows : u.rows = t.rows
  position : u.position = t.position

/-- Every table stands where it stands. -/
theorem SameRow.refl (t : ResultTable) : SameRow t t := ⟨rfl, rfl, rfl⟩

/-- Standing at the same row passes on. -/
theorem SameRow.trans {u v : ResultTable} (htu : SameRow t u) (huv : SameRow u v) : SameRow t v :=
  ⟨huv.columns.trans htu.columns, huv.rows.trans htu.rows, huv.position.trans htu.position⟩

/-- What a read leaves behind stands at the same row. -/
theorem sameRow_after (t : ResultTable) (cell : Cell) (handles : Nat) :
    SameRow t (t.after cell handles) := ⟨rfl, rfl, rfl⟩

/-- The cells of a row do not depend on what was read of it before. -/
theorem SameRow.cell_eq {u : ResultTable} (h : SameRow t u) (index : Nat) :
    u.cell index = t.cell index := by
  simp [ResultTable.cell, currentRow?, h.rows, h.position]

end ResultTable

/-- What becomes of a column whose cell in the current row is known, or cannot be reached. -/
def Column.outcome (column : Column) (settings : Settings) (cell : Except Error Cell) :
    ColumnOutcome :=
  match ColumnPlan.ofColumn? column settings.mapNumerics with
  | none => .unsupported
  | some plan =>
    match cell with
    | .error e => .failed column.fieldName column.columnType e
    | .ok cell =>
      match plan.interpret settings.maxLobLength cell with
      | .error e => .failed column.fieldName column.columnType e
      | .ok value => .extracted column.fieldName (if cell = .null then .null else value)

/-- What becomes of a column goes by the field name of the column. -/
theorem Column.outcome_name {column : Column} {settings : Settings} {cell : Except Error Cell}
    {schema : Schema} {entry : String × Value}
    (h : (column.outcome settings cell).accepted? schema = some entry) :
    entry.1 = column.fieldName := by
  have hextracted {name : String} {value : Value}
      (h : ColumnOutcome.accepted? schema (.extracted name value) = some entry) :
      entry.1 = name := by
    simp only [ColumnOutcome.accepted?] at h
    split at h
    · cases h
      rfl
    · cases h
  unfold Column.outcome at h
  split at h
  · cases h
  · split at h
    · cases h
    · split at h
      · cases h
      · exact hextracted h

/-- The number of handles that reading a column opens on its cell. -/
def Column.handles (column : Column) (settings : Settings) (cell : Except Error Cell) : Nat :=
  match ColumnPlan.ofColumn? column settings.mapNumerics, cell with
  | some plan, .ok cell => plan.handles cell
  | _, _ => 0

namespace ResultTable

variable {t : ResultTable} {settings : Settings} {index : Nat}

/-- What becomes of a column of the current row of a table. -/
def outcome (t : ResultTable) (settings : Settings) (index : Nat) : ColumnOutcome :=
  match t.columns[index]? with
  | none => .unreadable (outOfRange index)
  | some column => column.described.outcome settings (t.cell index)

/-- The number of handles that reading a column of the current row of a table opens. -/
def handlesAt (t : ResultTable) (settings : Settings) (index : Nat) : Nat :=
  match t.columns[index]? with
  | none => 0
  | some column => column.described.handles settings (t.cell index)

/-- At rows that agree on a cell the column of that cell turns out alike. -/
theorem outcome_congr {u : ResultTable} (hcolumns : u.columns = t.columns) {index : Nat}
    (hcell : u.cell index = t.cell index) (settings : Settings) :
    u.outcome settings index = t.outcome settings index := by
  simp only [outcome, hcolumns, hcell]

/-- A cell of the current row is read as the row has it. -/
theorem cell_congr {u : ResultTable} {cells cells' : List Cell} (ht : t.currentRow? = some cells)
    (hu : u.currentRow? = some cells') {index : Nat} (h : cells'[index]? = cells[index]?) :
    u.cell index = t.cell index := by
  simp only [cell, ht, hu, h]

/-- Standing at the same row means the same outcome of every column. -/
theorem SameRow.outcome {u : ResultTable} (h : SameRow t u) (settings : Settings) (index : Nat) :
    u.outcome settings index = t.outcome settings index :=
  outcome_congr h.columns (h.cell_eq index) settings

/-- Standing at the same row means the same handles for every column. -/
theorem SameRow.handlesAt {u : ResultTable} (h : SameRow t u) (settings : Settings)
    (index : Nat) : u.handlesAt settings index = t.handlesAt settings index := by
  simp only [ResultTable.handlesAt, h.columns, h.cell_eq]

/-- The lookups of a table for one of its columns describe it, and leave the table as it is. -/
theorem describes_column {column : Column} (hcolumn : t.columns[index]? = some column) :
    metadata.Describes (fun u => u = t) index column.described :=
  (metadata_presents fun _ hu => congrArg columns hu).describes (by simp [hcolumn])

/-- Extraction from a table interprets the cell by the plan of the column; NULL stays NULL. -/
theorem extract_table {column : Column} (hcolumn : t.columns[index]? = some column) :
    rowSource.extract index column.described.columnType settings t =
      match ColumnPlan.ofColumn? column.described settings.mapNumerics with
      | none => (.ok none, [], t)
      | some plan =>
        match t.cell index with
        | .error e => (.error e, [], t)
        | .ok cell =>
          ((plan.interpret settings.maxLobLength cell).map fun value =>
              some (if cell = .null then .null else value), [],
            t.after cell (plan.handles cell)) := by
  obtain ⟨hplan, hsame⟩ := (describes_column hcolumn).plan settings.mapNumerics t rfl
  change (rowSource.toMetadata.plan? index column.described.columnType settings.mapNumerics t).1 =
    _ at hplan
  change (rowSource.toMetadata.plan? index column.described.columnType settings.mapNumerics t).2 =
    t at hsame
  cases hfound : ColumnPlan.ofColumn? column.described settings.mapNumerics with
  | none =>
    rw [hfound] at hplan
    rw [RowSource.extract_of_no_plan hplan, hsame]
  | some plan =>
    rw [hfound] at hplan
    rw [RowSource.extract_of_plan hplan, hsame]
    cases hcell : t.cell index with
    | error e => rw [readBy_of_error hcell]
    | ok cell =>
      rw [readBy_of_cell hcell]
      cases hvalue : plan.interpret settings.maxLobLength cell with
      | error e => simp [hvalue, Except.map]
      | ok value => simp [hvalue, rowSource, after, Except.map]

/--
Reading a column of a table answers its outcome, reports nothing, stays at the row, and releases
each handle that it opens.
-/
theorem readColumn_table (t : ResultTable) (settings : Settings) (index : Nat) :
    ∃ u, rowSource.readColumn settings index t = (t.outcome settings index, [], u) ∧
      SameRow t u ∧ u.released = t.released + t.handlesAt settings index := by
  unfold RowSource.readColumn outcome handlesAt
  cases hcolumn : t.columns[index]? with
  | none =>
    have hidentify : rowSource.identify index t = (.error (outOfRange index), t) := by
      have hlookup : rowSource.columnType index t = (.error (outOfRange index), t) := by
        simp [rowSource, metadata, describe, hcolumn]
      exact (Step.bind_of_error (congrArg Prod.fst hlookup) _).trans (by rw [hlookup])
    exact ⟨t, by rw [hidentify], .refl t, rfl⟩
  | some column =>
    obtain ⟨hanswer, hsame⟩ := (describes_column hcolumn).identify t rfl
    have hidentify : rowSource.identify index t =
        (.ok (column.described.columnType, column.described.fieldName), t) :=
      Prod.ext hanswer hsame
    rw [hidentify]
    dsimp only
    rw [extract_table hcolumn]
    unfold Column.outcome Column.handles
    cases ColumnPlan.ofColumn? column.described settings.mapNumerics with
    | none => exact ⟨t, rfl, .refl t, rfl⟩
    | some plan =>
      cases t.cell index with
      | error e => exact ⟨t, rfl, .refl t, rfl⟩
      | ok cell =>
        refine ⟨t.after cell (plan.handles cell), ?_, sameRow_after t cell _, rfl⟩
        dsimp only
        cases plan.interpret settings.maxLobLength cell <;> rfl

/-- Tables with the same columns present these columns, whatever is read of their rows. -/
theorem rowSource_presents (columns : List Column) :
    rowSource.Presents (fun t => t.columns = columns) (columns.map Column.described) where
  toPresents := metadata_presents fun _ ht => ht
  read plan index limit {t} ht := by
    cases hcell : t.cell index with
    | error e =>
      rw [readBy_of_error hcell]
      exact ht
    | ok cell =>
      rw [readBy_of_cell hcell]
      exact ht
  wasNull ht := ht

/-- What becomes of the columns of the current row of a table, in order. -/
def outcomes (t : ResultTable) (settings : Settings) : List (Nat × ColumnOutcome) :=
  (List.range t.columns.length).map fun index => (index, t.outcome settings index)

/-- What a column of a table leaves in a record goes by the field name of the column. -/
theorem accepted_name {column : Column} (hcolumn : t.columns[index]? = some column)
    {schema : Schema} {entry : String × Value}
    (h : (t.outcome settings index).accepted? schema = some entry) :
    entry.1 = column.fieldName := by
  simp only [outcome, hcolumn] at h
  rw [Column.outcome_name h, Column.described_fieldName]

/-- What a schema accepts of a row is what it accepts of one of the columns. -/
theorem mem_accepted_outcomes {schema : Schema} {entry : String × Value} :
    entry ∈ schema.accepted (t.outcomes settings) ↔
      ∃ index column, t.columns[index]? = some column ∧
        (t.outcome settings index).accepted? schema = some entry := by
  simp only [Schema.accepted, outcomes, List.filterMap_map, List.mem_filterMap, List.mem_range,
    Function.comp_apply]
  constructor
  · rintro ⟨index, hindex, haccepted⟩
    exact ⟨index, _, List.getElem?_eq_getElem hindex, haccepted⟩
  · rintro ⟨index, column, hcolumn, haccepted⟩
    exact ⟨index, (List.getElem?_eq_some_iff.mp hcolumn).1, haccepted⟩

/-- The record that the current row of a table makes of a schema. -/
def record (t : ResultTable) (schema : Schema) (settings : Settings) : Record :=
  (Record.empty schema).storeAll (t.outcomes settings)

/-- What is reported of columns of the current row that are lost on the way to its record. -/
def losses (t : ResultTable) (schema : Schema) (settings : Settings) : List Event :=
  (Record.empty schema).losses (t.outcomes settings)

/-- The number of handles that reading the current row opens. -/
def handleTotal (t : ResultTable) (settings : Settings) : Nat :=
  ((List.range t.columns.length).map (t.handlesAt settings)).sum

/--
Columns of a table are stored as they turn out, whatever the reads before have left behind. Their
losses are reported, the table stays at the row, and each handle that is opened is released.
-/
theorem storeColumns_table (t : ResultTable) (settings : Settings) (indices : List Nat)
    (record : Record) :
    ∃ u, rowSource.storeColumns settings indices record t =
        (record.storeAll (indices.map fun index => (index, t.outcome settings index)),
          record.losses (indices.map fun index => (index, t.outcome settings index)), u) ∧
      SameRow t u ∧ u.released = t.released + (indices.map (t.handlesAt settings)).sum := by
  induction indices generalizing t record with
  | nil => exact ⟨t, rfl, .refl t, rfl⟩
  | cons index rest ih =>
    obtain ⟨u, hread, hsame, hreleased⟩ := readColumn_table t settings index
    obtain ⟨v, hstored, hsame', hreleased'⟩ :=
      ih u (record.store index (t.outcome settings index)).1
    -- The table left behind stands at the same row, so the columns to come turn out alike in it.
    have houtcome : (fun index => (index, u.outcome settings index)) =
        fun index => (index, t.outcome settings index) :=
      funext fun index => by rw [hsame.outcome]
    rw [houtcome] at hstored
    refine ⟨v, ?_, hsame.trans hsame', ?_⟩
    · simp only [RowSource.storeColumns, hread, hstored, List.map_cons, Record.storeAll_cons,
        Record.losses, List.nil_append]
    · rw [hreleased', hreleased, List.map_cons, List.sum_cons, Nat.add_assoc,
        funext (hsame.handlesAt settings)]

/--
The current row of a table makes its record. Exactly its losses are reported, the table stays at the
row, and each handle that was opened is released.
-/
theorem toRecord_table (t : ResultTable) (schema : Schema) (settings : Settings) :
    ∃ u, rowSource.toRecord schema settings t =
        (.ok (t.record schema settings), t.losses schema settings, u) ∧
      SameRow t u ∧ u.released = t.released + t.handleTotal settings := by
  obtain ⟨u, hstored, hsame, hreleased⟩ :=
    storeColumns_table t settings (List.range t.columns.length) (.empty schema)
  have hcount : rowSource.columnCount t = (.ok t.columns.length, t) := rfl
  refine ⟨u, ?_, hsame, hreleased⟩
  rw [RowSource.toRecord_of_count (congrArg Prod.fst hcount), hcount]
  dsimp only
  rw [hstored]
  rfl

end ResultTable

end RowCast

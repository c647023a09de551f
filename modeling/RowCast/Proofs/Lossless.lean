import RowCast.Proofs.Batches
import RowCast.Proofs.WellTyped

/-!
# Lossless conversion

Where every cell is well typed, converting a table loses nothing: each row makes a record, and each
field of it holds the content of a cell. The proof goes from the cell to the column, to the slot of
its field, to the record of the row and to the batch.
-/

namespace RowCast

/--
A record has a value in each slot, and by the name of each supported column the content of the cell
that a row has there.
-/
structure Record.Holds (record : Record) (settings : Settings) (columns : List Column)
    (row : List Cell) : Prop where
  length : record.slots.length = record.schema.size
  filled : ∀ slot ∈ record.slots, slot.isSome = true
  content (index : Nat) {column : Column} {cell : Cell} : columns[index]? = some column →
    row[index]? = some cell → column.isSupported settings = true →
      (record.get? column.fieldName).isSome = true ∧
        record.get? column.fieldName = cell.content?

namespace ResultTable

variable {columns : List Column} {row : List Cell} {schema : Schema} {settings : Settings}
  {index : Nat} {column : Column} {cell : Cell}

/-- A cell that has some content can be reached. -/
theorem cell_of_content (hcell : row[index]? = some cell) {value : Value}
    (hcontent : cell.content? = some value) : (atRow columns row).cell index = .ok cell := by
  have hrow : (atRow columns row).currentRow? = some row := rfl
  unfold ResultTable.cell
  rw [hrow]
  dsimp only
  rw [hcell]
  cases cell with
  | failing message => cases hcontent
  | _ => rfl

/-- Each column of a well-typed row has a cell in it, which is well typed. -/
theorem wellTyped_at
    (htyped : List.Forall₂ (Column.WellTyped settings) (columns.map Column.described) row)
    (hcolumn : columns[index]? = some column) :
    ∃ cell, row[index]? = some cell ∧ column.described.WellTyped settings cell := by
  obtain ⟨hlength, hcells⟩ := List.forall₂_iff_get.mp htyped
  obtain ⟨hindex, rfl⟩ := List.getElem?_eq_some_iff.mp hcolumn
  rw [List.length_map] at hlength
  have hrow : index < row.length := hlength ▸ hindex
  have hcell := hcells index (by simpa using hindex) hrow
  rw [List.get_eq_getElem, List.getElem_map] at hcell
  exact ⟨_, List.getElem?_eq_getElem hrow, hcell⟩

/-- A column without a counterpart is passed over. -/
theorem outcome_of_unsupported (hcolumn : columns[index]? = some column)
    (hplan : ColumnPlan.ofColumn? column.described settings.mapNumerics = none) :
    (atRow columns row).outcome settings index = .unsupported := by
  have hfound : (atRow columns row).columns[index]? = some column := hcolumn
  simp [outcome, hfound, Column.outcome, hplan]

section

variable (hschema : schema.Reflects settings (columns.map Column.described))
  (hnames : ((columns.map Column.described).map Column.fieldName).Nodup)

include hschema hnames

/-- The content of a well-typed cell is accepted under the name of its column. -/
theorem accepted_of_wellTyped (hcolumn : columns[index]? = some column)
    (hcell : row[index]? = some cell) (htyped : column.described.WellTyped settings cell)
    (hsupported : column.described.isSupported settings = true) :
    ∃ value, cell.content? = some value ∧
      ((atRow columns row).outcome settings index).accepted? schema =
        some (column.fieldName, value) := by
  obtain ⟨plan, hplan⟩ := Option.isSome_iff_exists.mp hsupported
  obtain ⟨value, hcontent, houtcome, htaken⟩ := Column.outcome_of_wellTyped hplan htyped
  have hmem : column.described ∈ columns.map Column.described :=
    List.mem_map_of_mem (List.mem_of_getElem? hcolumn)
  obtain ⟨field, hfield, hname, htype, hoptional⟩ := hschema.field hmem hplan
  have htakes : schema.takes column.fieldName value = true := by
    refine Schema.takes_iff.mpr ⟨field, ?_, ?_⟩
    · rw [← column.described_fieldName, ← hname]
      exact Schema.field?_of_mem (hschema.nodup hnames) hfield
    · rw [RecordField.validate_ok_iff, hoptional, htype]
      exact htaken
  have hfound : (atRow columns row).columns[index]? = some column := hcolumn
  refine ⟨value, hcontent, ?_⟩
  simp only [outcome, hfound, cell_of_content hcell hcontent, houtcome, Column.described_fieldName,
    ColumnOutcome.accepted?, htakes, if_true]

/-- Where no name is repeated, the content of a well-typed cell is all that goes by its name. -/
theorem lastNamed_of_wellTyped (hcolumn : columns[index]? = some column)
    (hcell : row[index]? = some cell) (htyped : column.described.WellTyped settings cell)
    (hsupported : column.described.isSupported settings = true) :
    ∃ value, cell.content? = some value ∧
      lastNamed column.fieldName
        (schema.accepted ((atRow columns row).outcomes settings)) = some value := by
  obtain ⟨value, hcontent, haccepted⟩ :=
    accepted_of_wellTyped hschema hnames hcolumn hcell htyped hsupported
  refine ⟨value, hcontent, lastNamed_of_unique ?_ ?_⟩
  · exact mem_accepted_outcomes.mpr ⟨index, column, hcolumn, haccepted⟩
  · intro other hother
    obtain ⟨i, column', hcolumn', haccepted'⟩ := mem_accepted_outcomes.mp hother
    have hname : column.fieldName = column'.fieldName := accepted_name hcolumn' haccepted'
    have hfound : columns[i]? = some column' := hcolumn'
    -- Whatever goes by this name comes from a column of this name, and there is only this one.
    have hsame : index = i := by
      have hlt : index < (columns.map Column.fieldName).length := by
        rw [List.length_map]
        exact (List.getElem?_eq_some_iff.mp hcolumn).1
      rw [Column.map_described_fieldName] at hnames
      apply (List.getElem?_inj hlt hnames).mp
      simp [hcolumn, hfound, hname]
    subst hsame
    rw [haccepted] at haccepted'
    cases haccepted'
    rfl

/-- The slot of the field of a supported column holds the content of its well-typed cell. -/
theorem record_slots_of_wellTyped (hcolumn : columns[index]? = some column)
    (hcell : row[index]? = some cell) (htyped : column.described.WellTyped settings cell)
    (hsupported : column.described.isSupported settings = true) {k : Nat} {field : RecordField}
    (hfield : schema.fields[k]? = some field) (hname : field.name = column.fieldName) :
    ∃ value, cell.content? = some value ∧
      ((atRow columns row).record schema settings).slots[k]? = some (some value) := by
  have hindex : schema.indexOf? field.name = some k :=
    Schema.indexOf?_of_nodup (hschema.nodup hnames) hfield
  obtain ⟨value, hcontent, hlast⟩ :=
    lastNamed_of_wellTyped hschema hnames hcolumn hcell htyped hsupported
  refine ⟨value, hcontent, ?_⟩
  rw [record, Record.storeAll_empty_slots hfield, if_pos hindex, hname, hlast]

/-- A row of well-typed cells makes a record that holds all of them. -/
theorem record_holds
    (htyped : List.Forall₂ (Column.WellTyped settings) (columns.map Column.described) row) :
    ((atRow columns row).record schema settings).Holds settings (columns.map Column.described)
      row := by
  have hlength : ((atRow columns row).record schema settings).slots.length = schema.size := by
    simp [record, Record.empty]
  have hsame : ((atRow columns row).record schema settings).schema = schema := by
    simp [record, Record.empty]
  refine ⟨by rw [hlength, hsame], ?_, ?_⟩
  · intro slot hslot
    obtain ⟨k, hk⟩ := List.mem_iff_getElem?.mp hslot
    have hlt : k < schema.fields.length :=
      Nat.lt_of_lt_of_eq (List.getElem?_eq_some_iff.mp hk).1 hlength
    have hname : schema.fields[k].name ∈ schema.fieldNames :=
      List.mem_map_of_mem (List.getElem_mem hlt)
    rw [hschema.names] at hname
    obtain ⟨described, hdescribed, hname⟩ := List.mem_map.mp hname
    obtain ⟨hdescribed, hsupported⟩ := List.mem_filter.mp hdescribed
    obtain ⟨column, hcolumn, rfl⟩ := List.mem_map.mp hdescribed
    obtain ⟨index, hindex⟩ := List.mem_iff_getElem?.mp hcolumn
    obtain ⟨cell, hcell, hcelltyped⟩ := wellTyped_at htyped hindex
    obtain ⟨value, -, hvalue⟩ := record_slots_of_wellTyped hschema hnames hindex hcell hcelltyped
      hsupported (List.getElem?_eq_getElem hlt) hname.symm
    rw [hk] at hvalue
    cases hvalue
    rfl
  · intro index described cell hdescribed hcell hsupported
    rw [List.getElem?_map] at hdescribed
    obtain ⟨column, hcolumn, rfl⟩ := Option.map_eq_some_iff.mp hdescribed
    obtain ⟨plan, hplan⟩ := Option.isSome_iff_exists.mp hsupported
    obtain ⟨field, hfield, hname, -⟩ :=
      hschema.field (List.mem_map_of_mem (List.mem_of_getElem? hcolumn)) hplan
    obtain ⟨k, hk⟩ := List.mem_iff_getElem?.mp hfield
    have hposition : schema.indexOf? column.described.fieldName = some k := by
      rw [← hname]
      exact Schema.indexOf?_of_nodup (hschema.nodup hnames) hk
    obtain ⟨cell', hcell', hcelltyped⟩ := wellTyped_at htyped hcolumn
    rw [hcell] at hcell'
    cases hcell'
    obtain ⟨value, hcontent, hvalue⟩ :=
      record_slots_of_wellTyped hschema hnames hcolumn hcell hcelltyped hsupported hk hname
    have hget : ((atRow columns row).record schema settings).get? column.described.fieldName =
        some value := by
      simp only [Record.get?, hsame, hposition, Option.bind_some, hvalue, Option.join_some]
    rw [hget, hcontent]
    exact ⟨rfl, rfl⟩

/-- Nothing of a row of well-typed cells is lost. -/
theorem losses_of_wellTyped
    (htyped : List.Forall₂ (Column.WellTyped settings) (columns.map Column.described) row) :
    (atRow columns row).losses schema settings = [] := by
  apply Record.losses_eq_nil
  intro entry hentry
  obtain ⟨index, hindex, rfl⟩ := List.mem_map.mp hentry
  obtain ⟨column, hcolumn⟩ : ∃ column, columns[index]? = some column :=
    ⟨_, List.getElem?_eq_getElem (List.mem_range.mp hindex)⟩
  cases hplan : ColumnPlan.ofColumn? column.described settings.mapNumerics with
  | none => exact .inl (outcome_of_unsupported hcolumn hplan)
  | some plan =>
    obtain ⟨cell, hcell, hcelltyped⟩ := wellTyped_at htyped hcolumn
    obtain ⟨value, -, haccepted⟩ := accepted_of_wellTyped hschema hnames hcolumn hcell hcelltyped
      (Option.isSome_iff_exists.mpr ⟨plan, hplan⟩)
    exact .inr (Option.isSome_iff_exists.mpr ⟨_, haccepted⟩)

end

end ResultTable

/-- A record with a value in each slot has as many values as fields. -/
theorem Record.Holds.setCount {record : Record} {settings : Settings} {columns : List Column}
    {row : List Cell} (h : record.Holds settings columns row) :
    record.setCount = record.schema.size := by
  rw [← h.length]
  exact List.countP_eq_length.mpr h.filled

/-- The number of cells of a row that are read through handles: those that are not NULL. -/
def handleCells (columns : List Column) (row : List Cell) : Nat :=
  (columns.zip row).countP fun entry => entry.1.opensHandle && entry.2 ≠ .null

/-- A count is the sum of ones over the counted elements. -/
theorem sum_map_ite_eq_countP {α : Type} (p : α → Bool) (l : List α) :
    (l.map fun a => if p a = true then 1 else 0).sum = l.countP p := by
  induction l with
  | nil => rfl
  | cons a rest ih => rw [List.map_cons, List.sum_cons, ih, List.countP_cons, Nat.add_comm]

namespace ResultTable

variable {columns : List Column} {row : List Cell} {settings : Settings}

/-- A column of a well-typed row opens one handle, if it reads its cell through one. -/
theorem handlesAt_of_wellTyped {index : Nat} {column : Column} {cell : Cell}
    (hcolumn : columns[index]? = some column) (hcell : row[index]? = some cell)
    (htyped : column.described.WellTyped settings cell) :
    (atRow columns row).handlesAt settings index =
      if (column.described.opensHandle && cell ≠ .null) = true then 1 else 0 := by
  have hfound : (atRow columns row).columns[index]? = some column := hcolumn
  simp only [handlesAt, hfound]
  cases hplan : ColumnPlan.ofColumn? column.described settings.mapNumerics with
  | none =>
    rw [Column.opensHandle_eq column.described settings.mapNumerics]
    simp [Column.handles, hplan]
  | some plan =>
    obtain ⟨value, hcontent, -⟩ := Column.outcome_of_wellTyped hplan htyped
    rw [cell_of_content hcell hcontent]
    exact Column.handles_of_wellTyped htyped

/-- A well-typed row opens a handle for each cell that is read through one. -/
theorem handleTotal_of_wellTyped
    (htyped : List.Forall₂ (Column.WellTyped settings) (columns.map Column.described) row) :
    (atRow columns row).handleTotal settings = handleCells (columns.map Column.described) row := by
  have hlength : columns.length = row.length := by
    simpa using htyped.length_eq
  unfold handleTotal handleCells
  rw [← sum_map_ite_eq_countP]
  congr 1
  apply List.ext_getElem
  · simp [atRow, hlength]
  · intro index hleft hright
    have hindex : index < columns.length := by
      simpa [atRow] using hleft
    have hcolumn := List.getElem?_eq_getElem hindex
    obtain ⟨cell, hcell, hcelltyped⟩ := wellTyped_at htyped hcolumn
    obtain ⟨hrow, rfl⟩ := List.getElem?_eq_some_iff.mp hcell
    simp only [List.getElem_map, List.getElem_range, List.getElem_zip]
    exact handlesAt_of_wellTyped hcolumn hcell hcelltyped

end ResultTable

namespace Converter

open ResultTable

/-- A converter builds a schema as the metadata says, and counts it. -/
theorem schemaOf_ok {σ : Type} {metadata : Metadata σ} {table : String} {defaults : Defaults}
    {c c' : Converter} {s s' : σ} {schema : Schema} {log : List Event}
    (h : schemaOf metadata table defaults (c, s) = (.ok schema, log, c', s')) :
    ∃ dropped more, metadata.schemaAndDropped table defaults c.settings s =
      (.ok (schema, dropped), more, s') ∧ c' = c.countSchema dropped := by
  simp only [schemaOf] at h
  split at h
  · next heq =>
    cases h
    exact ⟨_, _, heq, rfl⟩
  · cases h

/--
Converting a fresh table by the schema of its own metadata loses nothing, if no field name is
repeated and every row has a well-typed cell for each column. The fields are the supported columns.
There is one record for each row, in order, with a value in each slot, and by the name of each
supported column the content of its cell. Nothing is reported, no field is counted as empty, the
cursor comes to the end, and each handle that was opened is released.
-/
theorem recordsOfTable_lossless {columns : List Column} {rows : List (List Cell)} {table : String}
    {defaults : Defaults} {c c' : Converter} {t : ResultTable} {schema : Schema}
    {log : List Event}
    (hschema : schemaOf ResultTable.metadata table defaults (c, .ofRows columns rows) =
      (.ok schema, log, c', t))
    (hnames : (columns.map Column.fieldName).Nodup)
    (htyped : ∀ row ∈ rows,
      List.Forall₂ (Column.WellTyped c.settings) (columns.map Column.described) row) :
    schema.fieldNames = ((columns.map Column.described).filter
        (·.isSupported c.settings)).map Column.fieldName ∧
      ∃ records u, recordsOfTable schema (c', t) =
          (.ok records, [], { c' with stats := { c'.stats with
            recordsConverted := c'.stats.recordsConverted + UInt64.ofNat rows.length } }, u) ∧
        List.Forall₂ (fun row record => record.schema = schema ∧
          record.Holds c.settings (columns.map Column.described) row) rows records ∧
        u.rest = [] ∧
        u.released = (rows.map (handleCells (columns.map Column.described))).sum := by
  obtain ⟨dropped, more, hbuilt, rfl⟩ := schemaOf_ok hschema
  have hpresents : metadata.Presents (fun u => u = .ofRows columns rows)
      (columns.map Column.described) := metadata_presents fun u hu => congrArg _ hu
  have hreflects : schema.Reflects c.settings (columns.map Column.described) :=
    hpresents.reflects rfl (congrArg Prod.fst hbuilt)
  have hstate : (metadata.schemaAndDropped table defaults c.settings (.ofRows columns rows)).2.2 =
      .ofRows columns rows := hpresents.schema_keeps _ rfl
  rw [hbuilt] at hstate
  change t = .ofRows columns rows at hstate
  subst hstate
  rw [← Column.map_described_fieldName] at hnames
  have hholds : ∀ row ∈ rows, ((atRow columns row).record schema c.settings).Holds c.settings
      (columns.map Column.described) row :=
    fun row hrow => record_holds hreflects hnames (htyped row hrow)
  have hlosses : (rows.flatMap fun row => (atRow columns row).losses schema c.settings) = [] :=
    List.flatMap_eq_nil_iff.mpr fun row hrow =>
      losses_of_wellTyped hreflects hnames (htyped row hrow)
  have hfull : ∀ record ∈ rows.map fun row => (atRow columns row).record schema c.settings,
      record.setCount = record.schema.size := by
    intro record hrecord
    obtain ⟨row, hrow, rfl⟩ := List.mem_map.mp hrecord
    exact (hholds row hrow).setCount
  have hhandles : (rows.map fun row => (atRow columns row).handleTotal c.settings) =
      rows.map (handleCells (columns.map Column.described)) :=
    List.map_congr_left fun row hrow => handleTotal_of_wellTyped (htyped row hrow)
  obtain ⟨u, hrecords, hend, -, hreleased⟩ :=
    recordsOfTable_eq schema (c.countSchema dropped) (.ofRows columns rows)
  refine ⟨hreflects.names, rows.map fun row => (atRow columns row).record schema c.settings, u,
    ?_, ?_, hend, ?_⟩
  · have hcount := countRecords_of_full hfull (c.countSchema dropped)
    rw [List.length_map] at hcount
    rw [← hcount, ← hlosses]
    exact hrecords
  · rw [List.forall₂_map_right_iff, List.forall₂_same]
    intro row hrow
    exact ⟨by simp [ResultTable.record, Record.empty], hholds row hrow⟩
  · rw [← hhandles]
    exact hreleased.trans (Nat.zero_add _)

/-- Rows with numbers, text behind a handle, NULL and a column without a counterpart. -/
theorem recordsOfTable_lossless_of_mixed_columns :
    let columns : List Column :=
      [⟨"id", "", .integer, .noNulls, true, 10, 0⟩, ⟨"price", "", .decimal, .nullable, true, 8, 2⟩,
        ⟨"body", "text", .clob, .nullable, true, 0, 0⟩, ⟨"tags", "", .array, .unknown, true, 0, 0⟩]
    let price : Decimal := ⟨false, 150, 2, by decide, by decide⟩
    let rows : List (List Cell) :=
      [[.value (.int32 7), .value (.decimal price), .clob "abc" 3, .failing "unread"],
        [.value (.int32 8), .null, .null, .null]]
    ∃ schema log t,
      schemaOf ResultTable.metadata "t" (fun _ => none) (⟨.standard, .zero⟩, .ofRows columns rows) =
        (.ok schema, log, ⟨.standard, 1, 1, 0, 0⟩, t) ∧
      ∃ first second u, recordsOfTable schema (⟨.standard, 1, 1, 0, 0⟩, t) =
          (.ok [first, second], [], ⟨.standard, 1, 1, 2, 0⟩, u) ∧
        first.get? "price" = some (.decimal price) ∧ first.get? "text" = some (.string "abc") ∧
        second.get? "id" = some (.int32 8) ∧ second.get? "text" = some .null ∧
        u.released = 1 := by
  intro columns price rows
  have hschema : schemaOf ResultTable.metadata "t" (fun _ => none)
      (⟨.standard, .zero⟩, .ofRows columns rows) =
        (.ok ⟨"t", [⟨"id", .int32, false, none⟩, ⟨"price", .decimal 2, true, none⟩,
            ⟨"text", .string, true, none⟩]⟩,
          [.unsupportedColumn "tags" .array, .builtSchema "t" 3 1],
          ⟨.standard, 1, 1, 0, 0⟩, .ofRows columns rows) := rfl
  have hsuits {column : Column} {cell : Cell} {plan : ColumnPlan}
      (hplan : ColumnPlan.ofColumn? column false = some plan)
      (h : plan.Suits 2147483647 cell) : column.WellTyped .standard cell := by
    intro other hother
    rw [show ColumnPlan.ofColumn? column Settings.standard.mapNumerics = some plan from hplan]
      at hother
    cases hother
    exact .inr h
  have hnull {column : Column} (hoptional : column.isOptional = true) :
      column.WellTyped .standard .null := fun _ _ => .inl ⟨rfl, hoptional⟩
  have htags (cell : Cell) : Column.WellTyped .standard
      ⟨"tags", "", .array, .unknown, true, 0, 0⟩ cell := fun _ h => nomatch h
  have htyped : ∀ row ∈ rows, List.Forall₂ (Column.WellTyped .standard)
      (columns.map Column.described) row := by
    intro row hrow
    rcases List.mem_pair.mp hrow with rfl | rfl
    · exact .cons (hsuits rfl (.int32 7)) (.cons (hsuits rfl (.decimal rfl))
        (.cons (hsuits rfl (.largeText (.inl rfl) (.inr rfl) (by decide)))
          (.cons (htags _) .nil)))
    · exact .cons (hsuits rfl (.int32 8)) (.cons (hnull rfl) (.cons (hnull rfl)
        (.cons (htags _) .nil)))
  obtain ⟨-, records, u, hrecords, hholds, -, hreleased⟩ :=
    recordsOfTable_lossless hschema (by decide) htyped
  obtain ⟨first, more, ⟨-, hfirst⟩, hmore, rfl⟩ := List.forall₂_cons_left_iff.mp hholds
  obtain ⟨second, rest, ⟨-, hsecond⟩, hrest, rfl⟩ := List.forall₂_cons_left_iff.mp hmore
  cases hrest
  exact ⟨_, _, _, hschema, _, _, u, hrecords, (hfirst.content 1 rfl rfl rfl).2,
    (hfirst.content 2 rfl rfl rfl).2, (hsecond.content 0 rfl rfl rfl).2,
    (hsecond.content 2 rfl rfl rfl).2, hreleased⟩

end Converter

end RowCast

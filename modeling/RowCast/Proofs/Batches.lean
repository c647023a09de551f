import RowCast.Proofs.Delivery
import RowCast.Proofs.Stepping
import RowCast.Proofs.Tables

/-!
# Batches

Converting all rows that are left of a table goes row by row. Each row makes the record, reports the
losses and opens the handles that it would by itself, whatever stands before and behind it. The rows
that are left are also enough fuel for the cursor to come to the end.
-/

namespace RowCast

namespace Converter

/-- Count several records and the fields left empty in them. -/
def countRecords (c : Converter) (records : List Record) : Converter :=
  records.foldl countRecord c

/-- The first record is counted first. -/
@[simp] theorem countRecords_cons (c : Converter) (record : Record) (rest : List Record) :
    c.countRecords (record :: rest) = (c.countRecord record).countRecords rest := rfl

/-- Counting a record keeps the settings. -/
@[simp] theorem countRecord_settings (c : Converter) (record : Record) :
    (c.countRecord record).settings = c.settings := rfl

/-- Records without empty fields are counted as converted, and nothing else is. -/
theorem countRecords_of_full {records : List Record}
    (h : ∀ record ∈ records, record.setCount = record.schema.size) (c : Converter) :
    c.countRecords records =
      { c with stats := { c.stats with
          recordsConverted := c.stats.recordsConverted + UInt64.ofNat records.length } } := by
  induction records generalizing c with
  | nil => simp [countRecords]
  | cons record rest ih =>
    have hfull : record.schema.size - record.setCount = 0 := by
      rw [h record List.mem_cons_self, Nat.sub_self]
    have hsum : c.stats.recordsConverted + 1 + UInt64.ofNat rest.length =
        c.stats.recordsConverted + UInt64.ofNat (rest.length + 1) := by
      rw [UInt64.ofNat_add, UInt64.add_assoc, UInt64.add_comm 1]
      rfl
    rw [countRecords_cons, ih fun other hother => h other (List.mem_cons_of_mem _ hother)]
    simp [countRecord, Stats.countRecord, hfull, hsum]

end Converter

namespace ResultTable

variable {t u : ResultTable} {row : List Cell} {more : List (List Cell)}

/-- The rows that the cursor has still to come to. -/
def rest (t : ResultTable) : List (List Cell) :=
  t.rows.drop t.nextPosition

/-- As many rows remain as the cursor has still to come to. -/
theorem remaining_eq (t : ResultTable) : t.remaining = t.rest.length := by
  simp [remaining, rest]

/-- A table at the same row has the same rows to come. -/
theorem SameRow.rest (h : SameRow t u) : u.rest = t.rest := by
  simp only [ResultTable.rest, nextPosition, h.rows, h.position]

/-- A move finds the rows exhausted exactly if there is no row to come. -/
theorem nextRow_eq_false_iff_rest : t.nextRow.1 = false ↔ t.rest = [] := by
  rw [← Bool.not_eq_true, nextRow_eq_true_iff, Nat.not_lt]
  exact List.drop_eq_nil_iff.symm

/-- With no row to come a move stops behind the last row. -/
theorem position_nextRow_of_rest_nil (h : t.rest = []) :
    t.nextRow.2.position = some t.rows.length := by
  rw [position_nextRow, nextRow_eq_false_iff.mp (nextRow_eq_false_iff_rest.mpr h)]

/-- With no row to come a move fails, and leaves no row to come. -/
theorem nextRow_of_rest_nil (h : t.rest = []) : t.nextRow.1 = false ∧ t.nextRow.2.rest = [] := by
  refine ⟨nextRow_eq_false_iff_rest.mpr h, ?_⟩
  simp only [ResultTable.rest, nextPosition, position_nextRow_of_rest_nil h]
  exact List.drop_of_length_le (Nat.le_succ _)

/-- Behind the last row a further move changes nothing. -/
theorem nextRow_nextRow_of_rest_nil (h : t.rest = []) :
    t.nextRow.2.nextRow = (false, t.nextRow.2) := by
  have hposition := position_nextRow_of_rest_nil h
  have hnext : t.nextRow.2.nextPosition = t.rows.length + 1 := by
    simp only [nextPosition, hposition]
  refine Prod.ext (nextRow_of_rest_nil (nextRow_of_rest_nil h).2).1 ?_
  change ({ t.nextRow.2 with position := some (min t.nextRow.2.nextPosition t.rows.length) } :
    ResultTable) = _
  rw [hnext, Nat.min_eq_right (Nat.le_succ _), ← hposition]

/-- A move comes to the first of the rows to come, and leaves the others. -/
theorem nextRow_of_rest_cons (h : t.rest = row :: more) :
    t.nextRow.1 = true ∧ t.nextRow.2.currentRow? = some row ∧ t.nextRow.2.rest = more := by
  have hmove : t.nextRow.1 = true := by
    rw [← Bool.not_eq_false, nextRow_eq_false_iff_rest, h]
    exact List.cons_ne_nil _ _
  have hlt : t.nextPosition < t.rows.length := nextRow_eq_true_iff.mp hmove
  have hposition : t.nextRow.2.position = some t.nextPosition := by
    rw [position_nextRow, passed_of_nextRow hmove]
  rw [ResultTable.rest, List.drop_eq_getElem_cons hlt] at h
  obtain ⟨hrow, hmore⟩ := List.cons.inj h
  refine ⟨hmove, ?_, ?_⟩
  · simp only [currentRow?, hposition, Option.bind_some]
    exact (List.getElem?_eq_getElem hlt).trans (congrArg some hrow)
  · simp only [ResultTable.rest, nextPosition, hposition]
    exact hmore

/-- A table of one row, at this row. -/
def atRow (columns : List Column) (row : List Cell) : ResultTable :=
  ⟨columns, [row], some 0, false, 0⟩

/-- What becomes of the columns of a row does not depend on the rows around it. -/
theorem outcome_atRow (h : t.currentRow? = some row) (settings : Settings) (index : Nat) :
    t.outcome settings index = (atRow t.columns row).outcome settings index := by
  have hsingle : (atRow t.columns row).currentRow? = some row := rfl
  have hcell : t.cell index = (atRow t.columns row).cell index := cell_congr hsingle h rfl
  have hcolumns : t.columns = (atRow t.columns row).columns := rfl
  exact outcome_congr hcolumns hcell settings

/-- What becomes of a row does not depend on the rows around it. -/
theorem outcomes_atRow (h : t.currentRow? = some row) (settings : Settings) :
    t.outcomes settings = (atRow t.columns row).outcomes settings := by
  simp only [outcomes, outcome_atRow h settings, atRow]

/-- The handles that a row opens do not depend on the rows around it. -/
theorem handleTotal_atRow (h : t.currentRow? = some row) (settings : Settings) :
    t.handleTotal settings = (atRow t.columns row).handleTotal settings := by
  have hsingle : (atRow t.columns row).currentRow? = some row := rfl
  have hcell (index : Nat) : t.cell index = (atRow t.columns row).cell index :=
    cell_congr hsingle h rfl
  have hhandles : t.handlesAt settings = (atRow t.columns row).handlesAt settings := by
    funext index
    simp only [handlesAt, hcell, atRow]
  simp only [handleTotal, hhandles, atRow]

end ResultTable

namespace Converter

open ResultTable

/-- A table without a row to come is at the last turn of a batch. -/
theorem lastTurn_table {t : ResultTable} (h : t.rest = []) :
    cursor.LastTurn t (.ok ()) t.nextRow.2 := by
  have hmove := (nextRow_of_rest_nil h).1
  refine .exhausted ?_
  rw [← hmove]
  rfl

/-- The current row of a table is converted and counted as it would be by itself. -/
theorem recordOf_table {t : ResultTable} {row : List Cell} (h : t.currentRow? = some row)
    (schema : Schema) (c : Converter) :
    ∃ u, recordOf rowSource schema (c, t) =
        (.ok ((atRow t.columns row).record schema c.settings),
          (atRow t.columns row).losses schema c.settings,
          c.countRecord ((atRow t.columns row).record schema c.settings), u) ∧
      SameRow t u ∧
      u.released = t.released + (atRow t.columns row).handleTotal c.settings := by
  obtain ⟨u, hrecord, hsame, hreleased⟩ := toRecord_table t schema c.settings
  refine ⟨u, ?_, hsame, ?_⟩
  · simp only [recordOf, hrecord, ResultTable.record, ResultTable.losses, outcomes_atRow h]
  · rw [hreleased, handleTotal_atRow h]

/--
The rows that are left of a table can be taken by hand. Each makes the record and the reports that
it would make by itself, and opens as many handles; then no row is left.
-/
theorem stepped_table (schema : Schema) (c : Converter) (t : ResultTable) :
    ∃ u, Stepped cursor schema (c, t)
        (t.rest.map fun row => ((atRow t.columns row).record schema c.settings,
          (atRow t.columns row).losses schema c.settings))
        (c.countRecords (t.rest.map fun row => (atRow t.columns row).record schema c.settings),
          u) ∧
      u.rest = [] ∧ u.columns = t.columns ∧ u.released =
        t.released + (t.rest.map fun row => (atRow t.columns row).handleTotal c.settings).sum := by
  -- The induction is on the rows to come: each move takes the first of them off.
  generalize hrest : t.rest = left
  induction left generalizing c t with
  | nil => exact ⟨t, .done _, hrest, rfl, rfl⟩
  | cons row more ih =>
    obtain ⟨hmove, hrow, hmore⟩ := nextRow_of_rest_cons hrest
    have hadvance : cursor.advance t = (.ok true, t.nextRow.2) := by
      rw [← hmove]
      rfl
    obtain ⟨u, hrecord, hsame, hreleased⟩ := recordOf_table hrow schema c
    have hmoved : t.nextRow.2.columns = t.columns := rfl
    rw [hmoved] at hrecord hreleased
    obtain ⟨v, hstepped, hend, hcolumns, htotal⟩ :=
      ih (c.countRecord ((atRow t.columns row).record schema c.settings)) u
        (hsame.rest.trans hmore)
    have hkept : u.columns = t.columns := hsame.columns.trans hmoved
    rw [hkept] at hstepped hcolumns htotal
    refine ⟨v, .row hadvance hrecord hstepped, hend, hcolumns, ?_⟩
    rw [htotal, hreleased, List.map_cons, List.sum_cons, countRecord_settings]
    exact Nat.add_assoc _ _ _

/--
All rows that are left of a table are converted as each would be by itself, in order, and the cursor
is at the end.
-/
theorem recordsOf?_table (schema : Schema) (c : Converter) (t : ResultTable) :
    ∃ u, recordsOf? cursor schema (t.rest.length + 1) (c, t) =
        some (.ok (t.rest.map fun row => (atRow t.columns row).record schema c.settings),
          t.rest.flatMap fun row => (atRow t.columns row).losses schema c.settings,
          c.countRecords (t.rest.map fun row => (atRow t.columns row).record schema c.settings),
          u) ∧
      u.rest = [] ∧ u.columns = t.columns ∧ u.released =
        t.released + (t.rest.map fun row => (atRow t.columns row).handleTotal c.settings).sum := by
  obtain ⟨u, hstepped, hrest, hcolumns, hreleased⟩ := stepped_table schema c t
  refine ⟨u.nextRow.2, ?_, (nextRow_of_rest_nil hrest).2, hcolumns, hreleased⟩
  have hbatch := recordsOf?_of_stepped hstepped (lastTurn_table hrest) (Nat.lt_succ_self _)
  rw [List.length_map] at hbatch
  simpa [Except.map, List.flatMap_map, Function.comp_def] using hbatch

/-- The rows that remain of a table are fuel enough to convert them all. -/
theorem recordsOf?_remaining (schema : Schema) (c : Converter) (t : ResultTable) :
    recordsOf? cursor schema (t.remaining + 1) (c, t) = some (recordsOfTable schema (c, t)) := by
  obtain ⟨u, hrecords, -⟩ := recordsOf?_table schema c t
  unfold recordsOfTable
  dsimp only
  rw [remaining_eq, hrecords, Option.getD_some]

/-- All rows that are left of a table are converted, with the reports and handles of each. -/
theorem recordsOfTable_eq (schema : Schema) (c : Converter) (t : ResultTable) :
    ∃ u, recordsOfTable schema (c, t) =
        (.ok (t.rest.map fun row => (atRow t.columns row).record schema c.settings),
          t.rest.flatMap fun row => (atRow t.columns row).losses schema c.settings,
          c.countRecords (t.rest.map fun row => (atRow t.columns row).record schema c.settings),
          u) ∧
      u.rest = [] ∧ u.columns = t.columns ∧ u.released =
        t.released + (t.rest.map fun row => (atRow t.columns row).handleTotal c.settings).sum := by
  obtain ⟨u, hrecords, hrest⟩ := recordsOf?_table schema c t
  rw [← remaining_eq, recordsOf?_remaining] at hrecords
  exact ⟨u, Option.some.inj hrecords, hrest⟩

/-- All rows that are left of a table are converted as they are taken by hand. -/
theorem recordsOfTable_of_stepped {schema : Schema} {c : Converter} {t : ResultTable}
    {made : List (Record × List Event)} {last : Converter × ResultTable}
    (hmade : Stepped cursor schema (c, t) made last) (hlength : made.length = t.rest.length)
    (hlast : last.2.rest = []) :
    recordsOfTable schema (c, t) =
      (.ok (made.map (·.1)), made.flatMap (·.2), last.1, last.2.nextRow.2) := by
  have hfuel : made.length < t.remaining + 1 := by
    rw [remaining_eq, hlength]
    exact Nat.lt_succ_self _
  have hrecords := recordsOf?_of_stepped hmade (lastTurn_table hlast) hfuel
  rw [recordsOf?_remaining] at hrecords
  exact Option.some.inj hrecords

/-- Where no row is left of a table there is nothing to convert. -/
theorem recordsOfTable_of_rest_nil (schema : Schema) (c : Converter) {t : ResultTable}
    (h : t.rest = []) : recordsOfTable schema (c, t) = (.ok [], [], c, t.nextRow.2) :=
  recordsOfTable_of_stepped (.done (c, t)) (congrArg List.length h).symm h

end Converter

end RowCast

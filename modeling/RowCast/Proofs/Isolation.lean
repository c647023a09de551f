import Mathlib.Data.List.Basic
import RowCast.Proofs.Tables

/-!
# Failures stay in their column

Two tables that stand at rows which agree but for one cell make records that agree but for the
fields of the name of that cell's column. The cells there may differ in any way, and so may what was
read of either table before: neither the null indicator nor the count of released handles carries
anything from one column to the next.

Columns may share a name; then all of them stand for it.
-/

namespace RowCast

namespace ResultTable

variable {t u : ResultTable}

/-- Rows that agree but for one column accept the same values under any name but that column's. -/
theorem filter_accepted_congr (hcolumns : u.columns = t.columns) {j : Nat} {column : Column}
    (hcolumn : t.columns[j]? = some column) (hagree : ∀ i, i ≠ j → u.cell i = t.cell i)
    (schema : Schema) (settings : Settings) {name : String} (hname : name ≠ column.fieldName) :
    (schema.accepted (u.outcomes settings)).filter (fun entry => entry.1 == name) =
      (schema.accepted (t.outcomes settings)).filter fun entry => entry.1 == name := by
  unfold Schema.accepted outcomes
  rw [List.filterMap_map, List.filterMap_map, List.filter_filterMap, List.filter_filterMap,
    hcolumns]
  apply List.filterMap_congr
  intro index _
  dsimp only [Function.comp_apply]
  by_cases hj : index = j
  -- Whatever column `j` leaves goes by its own name, so it is not among these values.
  · subst hj
    have hother (v : ResultTable) (hv : v.columns[index]? = some column) :
        ((v.outcome settings index).accepted? schema).filter (fun entry => entry.1 == name) =
          none := by
      rw [Option.filter_eq_none_iff]
      intro entry hentry
      have hentry : entry.1 = column.fieldName := accepted_name hv hentry
      simp [hentry, hname.symm]
    rw [hother u (hcolumns ▸ hcolumn), hother t hcolumn]
  · rw [outcome_congr hcolumns (hagree index hj)]

/--
One cell affects one name. Two rows of the same columns that agree on every cell except possibly the
one of column `j` both make a record, and the two records agree on each field whose name is not that
of column `j`, whatever the cells in it are and whatever was read of the tables before.
-/
theorem toRecord_isolates (hcolumns : u.columns = t.columns) {j : Nat} {column : Column}
    (hcolumn : t.columns[j]? = some column) {cells cells' : List Cell}
    (ht : t.currentRow? = some cells) (hu : u.currentRow? = some cells')
    (hagree : ∀ i, i ≠ j → cells'[i]? = cells[i]?) (schema : Schema) (settings : Settings) :
    ∃ a b, (rowSource.toRecord schema settings t).1 = .ok a ∧
      (rowSource.toRecord schema settings u).1 = .ok b ∧ a.schema = schema ∧ b.schema = schema ∧
      ∀ (k : Nat) (field : RecordField), schema.fields[k]? = some field →
        field.name ≠ column.fieldName →
          a.slots[k]? = b.slots[k]? ∧ a.get? field.name = b.get? field.name := by
  obtain ⟨_, ha, -⟩ := toRecord_table t schema settings
  obtain ⟨_, hb, -⟩ := toRecord_table u schema settings
  refine ⟨_, _, congrArg Prod.fst ha, congrArg Prod.fst hb, by simp [record, Record.empty],
    by simp [record, Record.empty], fun k field hfield hname => ?_⟩
  have hslots (i : Nat) (other : RecordField) (hother : schema.fields[i]? = some other)
      (hne : other.name ≠ column.fieldName) :
      (t.record schema settings).slots[i]? = (u.record schema settings).slots[i]? := by
    have hfilter := filter_accepted_congr hcolumns hcolumn
      (fun i hi => cell_congr ht hu (hagree i hi)) schema settings hne
    simp only [record, Record.storeAll_empty_slots hother, lastNamed, hfilter]
  refine ⟨hslots k field hfield hname, ?_⟩
  simp only [Record.get?, record, Record.storeAll_schema, Record.empty]
  cases hindex : schema.indexOf? field.name with
  | none => rfl
  | some i =>
    obtain ⟨other, hother, hsame, -⟩ := Schema.indexOf?_eq_some_iff.mp hindex
    have hslot := hslots i other hother (hsame ▸ hname)
    simp only [record, Record.empty] at hslot
    simp only [Option.bind_some, hslot]

/-- A cell that fails, under a stale null indicator, leaves the field beside it as it would be. -/
theorem toRecord_isolates_failing_cell :
    let schema : Schema := ⟨"t", [⟨"id", .int32, true, none⟩, ⟨"x", .string, true, none⟩]⟩
    let columns : List Column :=
      [⟨"id", "", .integer, .unknown, true, 0, 0⟩, ⟨"x", "", .varChar, .unknown, true, 0, 0⟩]
    let t : ResultTable :=
      ⟨columns, [[.value (.int32 1), .value (.string "a")]], some 0, false, 0⟩
    let u : ResultTable := ⟨columns, [[.value (.int32 1), .failing "gone"]], some 0, true, 3⟩
    ∃ a b, (rowSource.toRecord schema .standard t).1 = .ok a ∧
      (rowSource.toRecord schema .standard u).1 = .ok b ∧
      a.slots[0]? = b.slots[0]? ∧ a.get? "id" = b.get? "id" := by
  intro schema columns t u
  have hagree : ∀ i, i ≠ 1 →
      [Cell.value (.int32 1), .failing "gone"][i]? =
        [Cell.value (.int32 1), .value (.string "a")][i]? := by
    intro i hi
    match i, hi with
    | 0, _ => rfl
    | i + 2, _ => rfl
  obtain ⟨a, b, ha, hb, -, -, hfields⟩ :=
    toRecord_isolates (t := t) (u := u) rfl (j := 1) rfl rfl rfl hagree schema .standard
  exact ⟨a, b, ha, hb, hfields 0 _ rfl (by decide)⟩

end ResultTable

end RowCast

import RowCast.Conversion.Converter
import RowCast.Proofs.Rows

/-!
# Batches are taken step by step

A batch goes turn by turn. In every turn but the last the cursor moves to a row, and the row is
converted. In the last turn the cursor finds no row, or its move fails, or the number of columns of
the row cannot be read; nothing else about a row makes a batch fail. What the batch answers and
reports is what its turns do.
-/

namespace RowCast

section

variable {σ β χ ξ : Type}

/-- The last turn of a batch: how the batch ends by it, and the state that it leaves. -/
inductive Cursor.LastTurn (cursor : Cursor σ β χ ξ) : σ → Except Error Unit → σ → Prop where
  | exhausted {s last : σ} (h : cursor.advance s = (.ok false, last)) :
    LastTurn cursor s (.ok ()) last
  | failedMove {s last : σ} {e : Error} (h : cursor.advance s = (.error e, last)) :
    LastTurn cursor s (.error e) last
  | failedCount {s moved last : σ} {e : Error} (hadvance : cursor.advance s = (.ok true, moved))
    (hcount : cursor.row.columnCount moved = (.error e, last)) : LastTurn cursor s (.error e) last

namespace Converter

variable {cursor : Cursor σ β χ ξ} {row : RowSource σ β χ ξ} {schema : Schema} {c c' : Converter}
  {s s' moved : σ}

/--
Some rows taken by hand, each by a move and a conversion that succeed: the records that they make,
each with what was reported of its row.
-/
inductive Stepped (cursor : Cursor σ β χ ξ) (schema : Schema) :
    Converter × σ → List (Record × List Event) → Converter × σ → Prop where
  | done (start : Converter × σ) : Stepped cursor schema start [] start
  | row {c : Converter} {s moved : σ} {record : Record} {log : List Event}
    {next last : Converter × σ} {made : List (Record × List Event)}
    (hadvance : cursor.advance s = (.ok true, moved))
    (hrecord : recordOf cursor.row schema (c, moved) = (.ok record, log, next))
    (hrest : Stepped cursor schema next made last) :
    Stepped cursor schema (c, s) ((record, log) :: made) last

/-- A cursor without another row ends the conversion. -/
theorem recordsOf?_of_end (h : cursor.advance s = (.ok false, moved)) (fuel : Nat) :
    recordsOf? cursor schema (fuel + 1) (c, s) = some (.ok [], [], c, moved) := by
  simp only [recordsOf?, h]

/-- A move that fails ends the conversion. -/
theorem recordsOf?_of_failed_move {e : Error} (h : cursor.advance s = (.error e, moved))
    (fuel : Nat) :
    recordsOf? cursor schema (fuel + 1) (c, s) = some (.error e, [], c, moved) := by
  simp only [recordsOf?, h]

/-- A row that makes a record goes before the rows behind it. -/
theorem recordsOf?_of_row (hadvance : cursor.advance s = (.ok true, moved)) {record : Record}
    {log : List Event} {next : Converter × σ}
    (hrecord : recordOf cursor.row schema (c, moved) = (.ok record, log, next)) (fuel : Nat) :
    recordsOf? cursor schema (fuel + 1) (c, s) =
      (recordsOf? cursor schema fuel next).map fun (records, more, last) =>
        (records.map (record :: ·), log ++ more, last) := by
  simp only [recordsOf?, hadvance, hrecord]

/-- A row that makes no record ends the conversion. -/
theorem recordsOf?_of_failed_row (hadvance : cursor.advance s = (.ok true, moved)) {e : Error}
    {log : List Event} {last : Converter × σ}
    (hrecord : recordOf cursor.row schema (c, moved) = (.error e, log, last)) (fuel : Nat) :
    recordsOf? cursor schema (fuel + 1) (c, s) = some (.error e, log, last) := by
  simp only [recordsOf?, hadvance, hrecord]

/-- A row fails exactly where the number of its columns cannot be read, and without a trace. -/
theorem recordOf_eq_error_iff {e : Error} {log : List Event} :
    recordOf row schema (c, s) = (.error e, log, c', s') ↔
      row.columnCount s = (.error e, s') ∧ log = [] ∧ c' = c := by
  rcases hcount : row.columnCount s with ⟨cause | count, after⟩
  · have hrow := RowSource.toRecord_of_count_error (congrArg Prod.fst hcount) schema c.settings
    rw [hcount] at hrow
    simp only [recordOf, hrow, Prod.mk.injEq, Except.error.injEq]
    constructor
    · rintro ⟨rfl, rfl, rfl, rfl⟩
      exact ⟨⟨rfl, rfl⟩, rfl, rfl⟩
    · rintro ⟨⟨rfl, rfl⟩, rfl, rfl⟩
      exact ⟨rfl, rfl, rfl, rfl⟩
  · have hrow := RowSource.toRecord_of_count (congrArg Prod.fst hcount) schema c.settings
    simp [recordOf, hrow]

/-- A batch that comes to an end takes rows by hand and then its last turn. -/
theorem stepped_of_recordsOf? {fuel : Nat} {answer : Except Error (List Record)} {log : List Event}
    (h : recordsOf? cursor schema fuel (c, s) = some (answer, log, c', s')) :
    ∃ made before ended, made.length < fuel ∧ Stepped cursor schema (c, s) made (c', before) ∧
      cursor.LastTurn before ended s' ∧ answer = ended.map (fun () => made.map (·.1)) ∧
      log = made.flatMap (·.2) := by
  -- The induction is on the moves; only a row that makes a record leaves a batch behind it.
  induction fuel generalizing c s answer log with
  | zero => cases h
  | succ fuel ih =>
    rcases hadvance : cursor.advance s with ⟨e | _ | _, moved⟩
    · rw [recordsOf?_of_failed_move hadvance] at h
      cases h
      exact ⟨[], s, .error e, Nat.succ_pos _, .done _, .failedMove hadvance, rfl, rfl⟩
    · rw [recordsOf?_of_end hadvance] at h
      cases h
      exact ⟨[], s, .ok (), Nat.succ_pos _, .done _, .exhausted hadvance, rfl, rfl⟩
    · rcases hrecord : recordOf cursor.row schema (c, moved) with ⟨e | record, rowLog, next⟩
      · rw [recordsOf?_of_failed_row hadvance hrecord] at h
        cases h
        obtain ⟨hcount, rfl, rfl⟩ := recordOf_eq_error_iff.mp hrecord
        exact ⟨[], s, .error e, Nat.succ_pos _, .done _, .failedCount hadvance hcount, rfl, rfl⟩
      · rw [recordsOf?_of_row hadvance hrecord] at h
        obtain ⟨⟨rest, more, c₂, s₂⟩, hrest, hlast⟩ := Option.map_eq_some_iff.mp h
        cases hlast
        obtain ⟨made, before, ended, hlength, hmade, hturn, rfl, rfl⟩ := ih hrest
        refine ⟨(record, rowLog) :: made, before, ended, Nat.succ_lt_succ hlength,
          .row hadvance hrecord hmade, hturn, ?_, rfl⟩
        cases ended <;> rfl

/-- Rows taken by hand and a last turn make a batch, as soon as the moves suffice. -/
theorem recordsOf?_of_stepped {start last : Converter × σ} {made : List (Record × List Event)}
    {ended : Except Error Unit} (hmade : Stepped cursor schema start made last)
    (hturn : cursor.LastTurn last.2 ended s') {fuel : Nat} (hfuel : made.length < fuel) :
    recordsOf? cursor schema fuel start =
      some (ended.map (fun () => made.map (·.1)), made.flatMap (·.2), last.1, s') := by
  induction hmade generalizing fuel with
  | done start =>
    obtain ⟨fuel, rfl⟩ := Nat.exists_eq_add_one.mpr hfuel
    cases hturn with
    | exhausted hadvance => exact recordsOf?_of_end hadvance fuel
    | failedMove hadvance => exact recordsOf?_of_failed_move hadvance fuel
    | failedCount hadvance hcount =>
      exact recordsOf?_of_failed_row hadvance (recordOf_eq_error_iff.mpr ⟨hcount, rfl, rfl⟩) fuel
  | row hadvance hrecord hrest ih =>
    obtain ⟨fuel, rfl⟩ := Nat.exists_eq_add_one.mpr (Nat.zero_lt_of_lt hfuel)
    rw [recordsOf?_of_row hadvance hrecord, ih hturn (Nat.lt_of_succ_lt_succ hfuel)]
    cases ended <;> rfl

/-- A batch comes to an end exactly by rows taken by hand and a last turn. -/
theorem recordsOf?_eq_some_iff {fuel : Nat} {answer : Except Error (List Record)}
    {log : List Event} :
    recordsOf? cursor schema fuel (c, s) = some (answer, log, c', s') ↔
      ∃ made before ended, made.length < fuel ∧ Stepped cursor schema (c, s) made (c', before) ∧
        cursor.LastTurn before ended s' ∧ answer = ended.map (fun () => made.map (·.1)) ∧
        log = made.flatMap (·.2) := by
  constructor
  · exact stepped_of_recordsOf?
  · rintro ⟨made, before, ended, hlength, hmade, hturn, rfl, rfl⟩
    exact recordsOf?_of_stepped hmade hturn hlength

end Converter

end

end RowCast

import RowCast.Proofs.Batches
import RowCast.Proofs.Simulation

/-!
# Moves of a cursor

A cursor that counts its moves, and otherwise behaves as the cursor that is counted. By its count a
batch moves once for each row and once more, whatever its last turn turns out to be: after the first
failure, or after the end, it does not move again.
-/

namespace RowCast

/-- A source together with the number of moves that its cursor has made. -/
structure Counted (σ : Type) where
  source : σ
  moves : Nat

namespace Counted

variable {σ η κ α β χ ξ : Type}

/-- Perform a step that is no move. -/
def plain (step : Step σ α) : Step (Counted σ) α := fun w =>
  let (answer, source) := step w.source
  (answer, { w with source })

/-- Perform a call on a handle. -/
def calling (step : Step (η × σ) α) : Step (η × Counted σ) α := fun (handle, w) =>
  let (answer, handle, source) := step (handle, w.source)
  (answer, handle, { w with source })

/-- Perform a move and count it. -/
def moving (step : Step σ α) : Step (Counted σ) α := fun w =>
  let (answer, source) := step w.source
  (answer, ⟨source, w.moves + 1⟩)

/-- Every call is that of the source, and moves are counted. -/
def lifting : Lifting σ (Counted σ) fun η => η where
  plain _ _ step := plain step
  opening _ _ step := plain step
  calling _ _ step := calling step
  asking ask w := ((ask w.source).1, { w with source := (ask w.source).2 })
  moving := moving

/-- A row of a counted source. -/
def rowSource (r : RowSource σ β χ ξ) : RowSource (Counted σ) β χ ξ :=
  lifting.rowSource r

/-- A cursor that counts its moves. -/
def cursor (c : Cursor σ β χ ξ) : Cursor (Counted σ) β χ ξ :=
  lifting.cursor c

/-- A step that is no move runs on the source, and the count stays. -/
theorem plain_eq {step : Step σ α} {s s' : σ} {answer : Except Error α}
    (h : step s = (answer, s')) (moves : Nat) : plain step ⟨s, moves⟩ = (answer, ⟨s', moves⟩) := by
  simp only [plain, h]

/-- A move of a counted cursor is a move of its cursor, and counted. -/
theorem advance_eq {c : Cursor σ β χ ξ} {s s' : σ} {answer : Except Error Bool}
    (h : c.advance s = (answer, s')) (moves : Nat) :
    (cursor c).advance ⟨s, moves⟩ = (answer, ⟨s', moves + 1⟩) := by
  simp only [cursor, lifting, Lifting.cursor, moving, h]

/-- A counted source that has made `moves` moves, and its source. -/
def At (moves : Nat) (w : Counted σ) (s : σ) : Prop :=
  w = ⟨s, moves⟩

/-- A step that is no move is alike when moves are counted. -/
theorem plain_alike (moves : Nat) (step : Step σ α) : (plain step).Alike (At moves) step := by
  rintro w s rfl
  exact ⟨rfl, rfl⟩

/-- A plain read is alike when moves are counted. -/
theorem ofStep_alike (moves : Nat) (step : Step σ α) (toValue : α → Value) :
    Traced.Alike (At moves) (.ofStep ((plain step).map toValue)) (.ofStep (step.map toValue)) := by
  rintro w s rfl
  rw [Traced.ofStep_apply, Traced.ofStep_apply, Step.map_apply, Step.map_apply]
  exact ⟨rfl, rfl, rfl⟩

/-- A handle together with a counted source, and the handle together with its source. -/
def AtHandle (moves : Nat) (p : η × Counted σ) (q : η × σ) : Prop :=
  p.1 = q.1 ∧ At moves p.2 q.2

/-- A call on a handle is alike when moves are counted. -/
theorem calling_alike (moves : Nat) (step : Step (η × σ) α) :
    (calling step).Alike (AtHandle moves) step := by
  rintro ⟨handle, w⟩ ⟨other, s⟩ ⟨hhandle, hw⟩
  obtain rfl : handle = other := hhandle
  obtain rfl : w = ⟨s, moves⟩ := hw
  exact ⟨rfl, rfl, rfl⟩

/-- A large object is read alike when moves are counted. -/
theorem readWhole_alike (moves : Nat) (object : LargeObject σ η κ) (limit : UInt64) :
    ((lifting.largeObject object).readWhole limit).Alike (AtHandle moves)
      (object.readWhole limit) := by
  refine (calling_alike moves object.length).bind fun length => ?_
  by_cases hlong : limit.toNat < length
  · rw [if_pos hlong, if_pos hlong]
    exact fun _ _ h => ⟨rfl, h⟩
  · rw [if_neg hlong, if_neg hlong]
    exact calling_alike moves _

/-- A handle is used and released alike when moves are counted. -/
theorem releasing_alike (moves : Nat) {use : Step (η × Counted σ) κ} {use' : Step (η × σ) κ}
    (huse : use.Alike (AtHandle moves) use') (free : Step (η × σ) Unit) (handle : η) :
    Traced.Alike (At moves) (releasing (calling free) handle use)
      (releasing free handle use') := by
  intro w s h
  have hstart : AtHandle moves (handle, w) (handle, s) := ⟨rfl, h⟩
  obtain ⟨answer, p, q, hp, hq, hused⟩ := huse.run hstart
  obtain ⟨freed, p', q', hp', hq', -, hlast⟩ := (calling_alike moves free).run hused
  simp only [releasing, hp, hq, hp', hq']
  cases freed <;> exact ⟨rfl, rfl, hlast⟩

/-- What is read behind a handle is alike when moves are counted. -/
theorem drainBy_alike (moves : Nat) {use : Step (η × Counted σ) κ} {use' : Step (η × σ) κ}
    (huse : use.Alike (AtHandle moves) use') (free : Step (η × σ) Unit) (toValue : κ → Value)
    (acquire : Step σ (Option η)) :
    Traced.Alike (At moves) (drainBy (calling free) use toValue (plain acquire))
      (drainBy free use' toValue acquire) := by
  refine (plain_alike moves acquire).lift.bind fun handle? => ?_
  cases handle? with
  | none => exact .pure _
  | some handle => exact (releasing_alike moves huse free handle).bind fun _ => .pure _

/-- Reads by plans are alike when moves are counted. -/
theorem readBy_alike (moves : Nat) (r : RowSource σ β χ ξ) (plan : ColumnPlan) (index : Nat)
    (limit : UInt64) :
    ((rowSource r).readBy plan index limit).Alike (At moves) (r.readBy plan index limit) := by
  cases plan with
  | integer width => cases width <;> exact ofStep_alike moves _ _
  | text source =>
    cases source with
    | standard | national | dataLink => exact ofStep_alike moves _ _
    | clob | nClob => exact drainBy_alike moves (readWhole_alike moves r.clob limit) _ _ _
    | xml => exact drainBy_alike moves (calling_alike moves r.xml.text) _ _ _
  | binary source =>
    cases source with
    | standard => exact ofStep_alike moves _ _
    | blob => exact drainBy_alike moves (readWhole_alike moves r.blob limit) _ _ _
  | boolean | float32 | float64 | decimal | date | time | timestamp => exact ofStep_alike moves _ _

/-- Rows are alike when moves are counted, and make no move. -/
theorem rowSource_alike (moves : Nat) (r : RowSource σ β χ ξ) :
    (rowSource r).Alike (At moves) r where
  toAlike := Lifting.metadata_alike (fun _ _ step => plain_alike moves step) r.toMetadata
  readBy := readBy_alike moves r
  askNull := by
    rintro w s rfl
    exact ⟨rfl, rfl⟩

end Counted

/-- The last turn of a batch makes one move. -/
theorem Cursor.LastTurn.counted {σ β χ ξ : Type} {cursor : Cursor σ β χ ξ} {s s' : σ}
    {ended : Except Error Unit} (h : cursor.LastTurn s ended s') (moves : Nat) :
    (Counted.cursor cursor).LastTurn ⟨s, moves⟩ ended ⟨s', moves + 1⟩ := by
  cases h with
  | exhausted hadvance => exact .exhausted (Counted.advance_eq hadvance moves)
  | failedMove hadvance => exact .failedMove (Counted.advance_eq hadvance moves)
  | failedCount hadvance hcount =>
    exact .failedCount (Counted.advance_eq hadvance moves) (Counted.plain_eq hcount (moves + 1))

namespace Converter

section

variable {σ β χ ξ : Type} {cursor : Cursor σ β χ ξ} {schema : Schema}

/-- Taking rows by hand makes one move for each. -/
theorem Stepped.counted {start last : Converter × σ} {made : List (Record × List Event)}
    (h : Stepped cursor schema start made last) (moves : Nat) :
    Stepped (Counted.cursor cursor) schema (start.1, ⟨start.2, moves⟩) made
      (last.1, ⟨last.2, moves + made.length⟩) := by
  induction h generalizing moves with
  | done start => exact .done _
  | @row c s moved record log next last made hadvance hrecord hrest ih =>
    have hat : Counted.At (moves + 1) ⟨moved, moves + 1⟩ moved := rfl
    obtain ⟨answer, rowLog, c', w, s', hw, hs, rfl⟩ :=
      (Counted.rowSource_alike (moves + 1) cursor.row).recordOf schema c hat
    cases hrecord.symm.trans hs
    rw [List.length_cons, Nat.add_comm made.length, ← Nat.add_assoc]
    exact .row (Counted.advance_eq hadvance moves) hw (ih (moves + 1))

/-- A batch moves once for each row that it converts and once more, and never after that. -/
theorem recordsOf?_counted {start last : Converter × σ} {made : List (Record × List Event)}
    {ended : Except Error Unit} {s' : σ} (hmade : Stepped cursor schema start made last)
    (hturn : cursor.LastTurn last.2 ended s') {fuel : Nat} (hfuel : made.length < fuel) :
    recordsOf? (Counted.cursor cursor) schema fuel (start.1, ⟨start.2, 0⟩) =
      some (ended.map (fun () => made.map (·.1)), made.flatMap (·.2), last.1,
        ⟨s', made.length + 1⟩) := by
  have hmoves := recordsOf?_of_stepped (hmade.counted 0) (hturn.counted _) hfuel
  rwa [Nat.zero_add] at hmoves

end

open ResultTable in
/--
A batch is the rows of its cursor taken by hand. On a table it ends, whatever its columns, cells and
schema: it answers one record for each row that is left, made of this row alone, with the same
reports, statistics and releases as by hand, and afterwards no row is left to it. With any other
cursor it fails exactly if, after some rows, a move fails or the number of columns cannot be read,
and with the error of that. The cursor is moved once for each row and once for the last turn.
-/
theorem batch_row_by_row (schema : Schema) (c : Converter) (t : ResultTable) {σ β χ ξ : Type}
    (cursor : Cursor σ β χ ξ) (s : σ) :
    (∃ made c' u ended, Stepped ResultTable.cursor schema (c, t) made (c', u) ∧
      u.nextRow = (false, ended) ∧
      recordsOfTable schema (c, t) = (.ok (made.map (·.1)), made.flatMap (·.2), c', ended) ∧
      ended.released = u.released ∧
      made = (t.rest.map fun row => ((atRow t.columns row).record schema c.settings,
        (atRow t.columns row).losses schema c.settings)) ∧
      (t.position = none → t.rest = t.rows) ∧
      (∀ fuel, t.rest.length < fuel →
        recordsOf? ResultTable.cursor schema fuel (c, t) = some (recordsOfTable schema (c, t))) ∧
      ended.nextRow = (false, ended) ∧
      ∀ other, recordsOfTable other (c', ended) = (.ok [], [], c', ended)) ∧
    (∀ e, (∃ fuel log last, recordsOf? cursor schema fuel (c, s) = some (.error e, log, last)) ↔
      ∃ made c' before s', Stepped cursor schema (c, s) made (c', before) ∧
        cursor.LastTurn before (.error e) s') ∧
    ∀ made c' before ended s', Stepped cursor schema (c, s) made (c', before) →
      cursor.LastTurn before ended s' → ∀ fuel, made.length < fuel →
        recordsOf? cursor schema fuel (c, s) =
          some (ended.map (fun () => made.map (·.1)), made.flatMap (·.2), c', s') ∧
        recordsOf? (Counted.cursor cursor) schema fuel (c, ⟨s, 0⟩) =
          some (ended.map (fun () => made.map (·.1)), made.flatMap (·.2), c',
            ⟨s', made.length + 1⟩) := by
  refine ⟨?_, fun e => ?_, ?_⟩
  · obtain ⟨u, hmade, hrest, -⟩ := stepped_table schema c t
    have hmove : u.nextRow = (false, u.nextRow.2) := Prod.ext (nextRow_of_rest_nil hrest).1 rfl
    have hagain : u.nextRow.2.nextRow = (false, u.nextRow.2) := nextRow_nextRow_of_rest_nil hrest
    have htable := recordsOfTable_of_stepped hmade (List.length_map _) hrest
    refine ⟨_, _, u, u.nextRow.2, hmade, hmove, htable, rfl, rfl, fun hstart => ?_,
      fun fuel hfuel => ?_, hagain, fun other => ?_⟩
    · simp only [ResultTable.rest, nextPosition, hstart, List.drop_zero]
    · rw [htable]
      exact recordsOf?_of_stepped hmade (lastTurn_table hrest) (by rwa [List.length_map])
    · rw [recordsOfTable_of_rest_nil other _ (nextRow_of_rest_nil hrest).2, hagain]
  · constructor
    · rintro ⟨fuel, log, ⟨c', s'⟩, hfailed⟩
      obtain ⟨made, before, ended, -, hmade, hturn, hended, -⟩ :=
        recordsOf?_eq_some_iff.mp hfailed
      cases ended with
      | ok => cases hended
      | error cause =>
        cases hended
        exact ⟨made, c', before, s', hmade, hturn⟩
    · rintro ⟨made, c', before, s', hmade, hturn⟩
      exact ⟨made.length + 1, _, (c', s'), recordsOf?_eq_some_iff.mpr
        ⟨made, before, .error e, Nat.lt_succ_self _, hmade, hturn, rfl, rfl⟩⟩
  · intro made c' before ended s' hmade hturn fuel hfuel
    exact ⟨recordsOf?_of_stepped hmade hturn hfuel, recordsOf?_counted hmade hturn hfuel⟩

/-- A cursor with three rows that fails at its second move is not moved a third time. -/
example :
    let columns : List Column := [⟨"n", "", .integer, .unknown, true, 0, 0⟩]
    let row : List Cell := [.value (.int32 7)]
    let table : Faulty ResultTable :=
      ⟨.ofRows columns [row, row, row], [⟨.advance, none, "gone", 1⟩], none⟩
    let counted := Counted.cursor (Faulty.cursor ResultTable.cursor)
    (recordsOf? counted ⟨"t", []⟩ 9 (⟨.standard, .zero⟩, ⟨table, 0⟩)).map
      (fun outcome => (outcome.1, outcome.2.2.2.moves)) = some (.error (.driver "gone"), 2) := by
  rfl

end Converter

end RowCast

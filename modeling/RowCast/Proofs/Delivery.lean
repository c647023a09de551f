import RowCast.Source.Table

/-!
# Delivery of rows

Rows are appended to a table, and moves of its cursor deliver them, in any order of the two. The
cursor has one position, which stops behind the last row when the rows are exhausted. A row that is
appended then arrives at this very position: the next move goes past it, and no move ever comes
to it. Apart from such rows every row is delivered once, in order.
-/

namespace RowCast

/-- A call that changes which rows a table has, or at which of them it is. -/
inductive TableCall where
  | push (row : List Cell)
  | next

/-- The row that a call appends. -/
def TableCall.row? : TableCall → Option (List Cell)
  | push row => some row
  | next => none

namespace ResultTable

variable {t : ResultTable} {calls : List TableCall}

/-- The table after a call. -/
def call (t : ResultTable) : TableCall → ResultTable
  | .push row => t.pushRow row
  | .next => t.nextRow.2

/-- The table after several calls. -/
def callAll (t : ResultTable) (calls : List TableCall) : ResultTable :=
  calls.foldl call t

/-- The moves among several calls: what each answers, and the table that it leaves. -/
def moves (t : ResultTable) : List TableCall → List (Bool × ResultTable)
  | [] => []
  | .push row :: rest => (t.pushRow row).moves rest
  | .next :: rest => t.nextRow :: t.nextRow.2.moves rest

/-- The rows that moves come to: where each is in the table, and its cells. -/
def stops (t : ResultTable) (calls : List TableCall) : List (Option Nat × Option (List Cell)) :=
  ((t.moves calls).filter (·.1)).map fun move => (move.2.position, move.2.currentRow?)

/-- The numbers of rows that there were each time that a move found them exhausted. -/
def ends (t : ResultTable) (calls : List TableCall) : List Nat :=
  ((t.moves calls).filter (!·.1)).map (·.2.rows.length)

/-- The number of rows that the cursor has come to or gone past. -/
def passed (t : ResultTable) : Nat :=
  min t.nextPosition t.rows.length

/-- Whether a move comes to a row depends on where it aims at. -/
theorem nextRow_eq_true_iff : t.nextRow.1 = true ↔ t.nextPosition < t.rows.length :=
  decide_eq_true_iff

/-- A move stops behind the rows that are passed, at a row or at the end. -/
theorem position_nextRow (t : ResultTable) : t.nextRow.2.position = some t.passed := rfl

/-- A move that comes to a row passes the first row that is not passed yet. -/
theorem passed_of_nextRow (h : t.nextRow.1 = true) : t.passed = t.nextPosition :=
  Nat.min_eq_left (Nat.le_of_lt (nextRow_eq_true_iff.mp h))

/-- A move finds the rows exhausted if all of them are passed. -/
theorem nextRow_eq_false_iff : t.nextRow.1 = false ↔ t.passed = t.rows.length := by
  rw [← Bool.not_eq_true, nextRow_eq_true_iff, passed]
  omega

/-- After a move the next one aims one row further. -/
theorem nextPosition_nextRow (t : ResultTable) : t.nextRow.2.nextPosition = t.passed + 1 := rfl

/-- Appending a row does not move the cursor. -/
@[simp] theorem nextPosition_pushRow (t : ResultTable) (row : List Cell) :
    (t.pushRow row).nextPosition = t.nextPosition := rfl

/-- Appending a row makes the table longer by one. -/
@[simp] theorem length_rows_pushRow (t : ResultTable) (row : List Cell) :
    (t.pushRow row).rows.length = t.rows.length + 1 := by
  simp [pushRow]

/-- A row that is appended is still to come, unless the cursor was behind the last row. -/
theorem passed_pushRow (h : t.nextPosition ≤ t.rows.length) (row : List Cell) :
    (t.pushRow row).passed = t.passed := by
  simp only [passed, nextPosition_pushRow, length_rows_pushRow]
  omega

/-- A row that is appended while the cursor is behind the last row is passed at once. -/
theorem passed_pushRow_of_end (h : t.nextPosition = t.rows.length + 1) (row : List Cell) :
    (t.pushRow row).passed = t.rows.length + 1 ∧ t.passed = t.rows.length := by
  simp only [passed, nextPosition_pushRow, length_rows_pushRow]
  omega

/-- The calls append their rows behind those that the table has. -/
theorem rows_callAll (t : ResultTable) (calls : List TableCall) :
    (t.callAll calls).rows = t.rows ++ calls.filterMap TableCall.row? := by
  induction calls generalizing t with
  | nil => exact (List.append_nil _).symm
  | cons first rest ih =>
    change ((t.call first).callAll rest).rows = _
    rw [ih]
    cases first with
    | push row => exact List.append_assoc ..
    | next => rfl

/--
What holds of a table with the stops and ends of its cursor so far. The cursor is behind every end,
beyond the last row only after an end there, and every row that it passed is a stop unless the row
was appended at an end.
-/
structure Delivered (t : ResultTable) (stops : List (Option Nat × Option (List Cell)))
    (ends : List Nat) : Prop where
  ends_lt : ∀ e ∈ ends, e < t.nextPosition
  behind : t.nextPosition ≤ t.rows.length ∨
    (t.nextPosition = t.rows.length + 1 ∧ t.rows.length ∈ ends)
  stops_eq : stops =
    ((List.range t.passed).filter (· ∉ ends)).map fun i => (some i, t.rows[i]?)

namespace Delivered

variable {stops : List (Option Nat × Option (List Cell))} {ends : List Nat}

/-- Before the first move nothing is passed. -/
theorem start (h : t.position = none) : t.Delivered [] [] := by
  have hnext : t.nextPosition = 0 := by simp only [nextPosition, h]
  have hpassed : t.passed = 0 := by rw [passed, hnext, Nat.zero_min]
  refine ⟨fun e he => (nomatch he), .inl ?_, ?_⟩
  · rw [hnext]
    exact Nat.zero_le _
  · rw [hpassed]
    rfl

/-- A row that is appended where the cursor is at an end is passed, but is no stop. -/
theorem push (h : t.Delivered stops ends) (row : List Cell) :
    (t.pushRow row).Delivered stops ends := by
  have hkept : ∀ i < t.passed, (t.pushRow row).rows[i]? = t.rows[i]? := fun i hi =>
    List.getElem?_append_left (Nat.lt_of_lt_of_le hi (Nat.min_le_right ..))
  have hsame : (List.range (t.pushRow row).passed).filter (· ∉ ends) =
      (List.range t.passed).filter (· ∉ ends) := by
    rcases h.behind with hle | ⟨heq, hend⟩
    · rw [passed_pushRow hle]
    · obtain ⟨hafter, hbefore⟩ := passed_pushRow_of_end heq row
      rw [hafter, hbefore, List.range_succ, List.filter_append]
      simp [hend]
  refine ⟨h.ends_lt, .inl ?_, ?_⟩
  · have hbehind := h.behind
    rw [nextPosition_pushRow, length_rows_pushRow]
    omega
  · rw [h.stops_eq, hsame]
    refine List.map_congr_left fun i hi => ?_
    rw [hkept i (List.mem_range.mp (List.mem_filter.mp hi).1)]

/-- A move to a row passes this row, which is a stop. -/
theorem stop (h : t.Delivered stops ends) (hmove : t.nextRow.1 = true) :
    t.nextRow.2.Delivered (stops ++ [(t.nextRow.2.position, t.nextRow.2.currentRow?)]) ends := by
  have hlt : t.nextPosition < t.rows.length := nextRow_eq_true_iff.mp hmove
  have hpassed : t.passed = t.nextPosition := passed_of_nextRow hmove
  have hnext : t.nextRow.2.nextPosition = t.nextPosition + 1 := by
    rw [nextPosition_nextRow, hpassed]
  have hafter : t.nextRow.2.passed = t.nextPosition + 1 := by
    rw [passed, hnext]
    exact Nat.min_eq_left hlt
  have hfresh : t.nextPosition ∉ ends := fun hend => Nat.lt_irrefl _ (h.ends_lt _ hend)
  have hstop : (t.nextRow.2.position, t.nextRow.2.currentRow?) =
      (some t.nextPosition, t.rows[t.nextPosition]?) := by
    rw [currentRow?, position_nextRow, hpassed]
    rfl
  refine ⟨fun e he => ?_, .inl ?_, ?_⟩
  · rw [hnext]
    exact Nat.lt_succ_of_lt (h.ends_lt e he)
  · rw [hnext]
    exact hlt
  · rw [hafter, List.range_succ, List.filter_append, List.map_append, h.stops_eq, hpassed, hstop]
    simp [hfresh, nextRow]

/-- A move that finds the rows exhausted is an end, and passes no row. -/
theorem exhaust (h : t.Delivered stops ends) (hmove : t.nextRow.1 = false) :
    t.nextRow.2.Delivered stops (ends ++ [t.nextRow.2.rows.length]) := by
  have hrows : t.nextRow.2.rows = t.rows := rfl
  have hpassed : t.passed = t.rows.length := nextRow_eq_false_iff.mp hmove
  have hnext : t.nextRow.2.nextPosition = t.rows.length + 1 := by
    rw [nextPosition_nextRow, hpassed]
  have hafter : t.nextRow.2.passed = t.rows.length := by
    rw [passed, hnext]
    exact Nat.min_eq_right (Nat.le_succ _)
  refine ⟨fun e he => ?_, .inr ⟨hnext, List.mem_append_right _ List.mem_cons_self⟩, ?_⟩
  · have hbehind := h.behind
    rw [hnext]
    rcases List.mem_append.mp he with he | he
    · have := h.ends_lt e he
      omega
    · rw [List.mem_singleton.mp he]
      exact Nat.lt_succ_self _
  · rw [h.stops_eq, hafter, hpassed, hrows]
    congr 1
    refine List.filter_congr fun i hi => ?_
    have hne : i ≠ t.rows.length := Nat.ne_of_lt (List.mem_range.mp hi)
    simp [hne]

/-- What calls do keeps the account of stops and ends. -/
theorem callAll (h : t.Delivered stops ends) (calls : List TableCall) :
    (t.callAll calls).Delivered (stops ++ t.stops calls) (ends ++ t.ends calls) := by
  induction calls generalizing t stops ends with
  | nil =>
    change t.Delivered (stops ++ []) (ends ++ [])
    rwa [List.append_nil, List.append_nil]
  | cons first rest ih =>
    cases first with
    | push row => exact ih (h.push row)
    | next =>
      change (t.nextRow.2.callAll rest).Delivered (stops ++ t.stops (.next :: rest))
        (ends ++ t.ends (.next :: rest))
      cases hmove : t.nextRow.1 with
      | true =>
        have hstops : t.stops (.next :: rest) =
            (t.nextRow.2.position, t.nextRow.2.currentRow?) :: t.nextRow.2.stops rest := by
          simp [ResultTable.stops, moves, hmove]
        have hends : t.ends (.next :: rest) = t.nextRow.2.ends rest := by
          simp [ResultTable.ends, moves, hmove]
        rw [hstops, hends, List.append_cons]
        exact ih (h.stop hmove)
      | false =>
        have hstops : t.stops (.next :: rest) = t.nextRow.2.stops rest := by
          simp [ResultTable.stops, moves, hmove]
        have hends : t.ends (.next :: rest) =
            t.nextRow.2.rows.length :: t.nextRow.2.ends rest := by
          simp [ResultTable.ends, moves, hmove]
        rw [hstops, hends, List.append_cons]
        exact ih (h.exhaust hmove)

/-- A row that is passed is a stop, unless it was appended at an end. -/
theorem mem_stops_iff (h : t.Delivered stops ends) {i : Nat} :
    (some i, t.rows[i]?) ∈ stops ↔ i < t.passed ∧ i ∉ ends := by
  rw [h.stops_eq]
  constructor
  · intro hmem
    obtain ⟨j, hj, heq⟩ := List.mem_map.mp hmem
    cases heq
    simpa using hj
  · intro hi
    exact List.mem_map.mpr ⟨i, by simpa using hi, rfl⟩

/-- If no row was appended at an end, the stops are the rows in order. -/
theorem stops_in_order (h : t.Delivered stops ends) (hends : ∀ e ∈ ends, t.rows.length ≤ e) :
    stops = (List.range t.passed).map fun i => (some i, t.rows[i]?) := by
  rw [h.stops_eq, List.filter_eq_self.mpr]
  intro i hi
  have hlt : i < t.rows.length := Nat.lt_of_lt_of_le (List.mem_range.mp hi) (Nat.min_le_right ..)
  simpa using fun he => Nat.not_le_of_lt hlt (hends i he)

/-- If a row was appended at an end, there are fewer stops than rows that are passed. -/
theorem length_stops_lt (h : t.Delivered stops ends) {e : Nat} (he : e ∈ ends)
    (hlt : e < t.rows.length) : stops.length < t.passed := by
  have hpassed : e < t.passed := Nat.lt_min.mpr ⟨h.ends_lt e he, hlt⟩
  rw [h.stops_eq, List.length_map]
  calc
    ((List.range t.passed).filter (· ∉ ends)).length < (List.range t.passed).length :=
      List.length_filter_lt_length_iff_exists.mpr ⟨e, List.mem_range.mpr hpassed, by simpa using he⟩
    _ = t.passed := List.length_range

/-- A move finds the rows exhausted if each was delivered or appended at an end. -/
theorem nextRow_eq_false_iff (h : t.Delivered stops ends) : t.nextRow.1 = false ↔
    ∀ i < t.rows.length, (some i, t.rows[i]?) ∈ stops ∨ i ∈ ends := by
  rw [ResultTable.nextRow_eq_false_iff]
  constructor
  · intro hpassed i hi
    by_cases he : i ∈ ends
    · exact .inr he
    · exact .inl (h.mem_stops_iff.mpr ⟨hpassed ▸ hi, he⟩)
  · intro hall
    refine Nat.le_antisymm (Nat.min_le_right ..) (Nat.le_of_not_lt fun hlt => ?_)
    have hnext : t.passed = t.nextPosition := by
      rw [passed] at hlt ⊢
      omega
    rcases hall t.passed hlt with hstop | hend
    · exact Nat.lt_irrefl _ (h.mem_stops_iff.mp hstop).1
    · exact Nat.ne_of_lt (h.ends_lt _ hend) hnext

/--
The stops are the rows in order, and the next move comes to the row behind them or finds all rows
delivered, exactly if no row was appended at an end.
-/
theorem in_order_iff (h : t.Delivered stops ends) :
    (∀ e ∈ ends, t.rows.length ≤ e) ↔
      stops = ((List.range stops.length).map fun i => (some i, t.rows[i]?)) ∧
      (t.nextRow.1 = true →
        (t.nextRow.2.position, t.nextRow.2.currentRow?) =
          (some stops.length, t.rows[stops.length]?)) ∧
      (t.nextRow.1 = false → stops.length = t.rows.length) := by
  constructor
  · intro hends
    have horder := h.stops_in_order hends
    have hlength : stops.length = t.passed := by
      rw [horder, List.length_map, List.length_range]
    refine ⟨by rwa [hlength], fun hmove => ?_, fun hmove => ?_⟩
    · rw [hlength, currentRow?, position_nextRow]
      rfl
    · rw [hlength, ResultTable.nextRow_eq_false_iff.mp hmove]
  · rintro ⟨-, hstop, hend⟩ e he
    refine Nat.le_of_not_lt fun hlt => ?_
    have hfewer := h.length_stops_lt he hlt
    cases hmove : t.nextRow.1 with
    | true =>
      have hposition := congrArg Prod.fst (hstop hmove)
      rw [position_nextRow] at hposition
      exact Nat.ne_of_lt hfewer (Option.some.inj hposition).symm
    | false =>
      have hpassed : t.passed = t.rows.length := ResultTable.nextRow_eq_false_iff.mp hmove
      exact Nat.ne_of_lt hfewer ((hend hmove).trans hpassed.symm)

end Delivered

/--
Whatever rows are appended and whatever moves are made, in any order, the rows that moves come to
are those that the cursor has passed, once each and in order, without the rows that were appended
where it had found the end. A move finds the rows exhausted if each was delivered or is one of
these. So deliveries are complete and the next move is right exactly if there is no such row.
-/
theorem deliveries_omit_rows_pushed_at_end (columns : List Column) (rows : List (List Cell))
    (calls : List TableCall) :
    let t := ofRows columns rows
    let u := t.callAll calls
    u.rows = rows ++ calls.filterMap TableCall.row? ∧
    t.stops calls = ((List.range u.passed).filter (· ∉ t.ends calls)).map
      (fun i => (some i, u.rows[i]?)) ∧
    (u.nextRow.1 = false ↔
      ∀ i < u.rows.length, (some i, u.rows[i]?) ∈ t.stops calls ∨ i ∈ t.ends calls) ∧
    ((∀ e ∈ t.ends calls, u.rows.length ≤ e) ↔
      t.stops calls = ((List.range (t.stops calls).length).map fun i => (some i, u.rows[i]?)) ∧
      (u.nextRow.1 = true →
        (u.nextRow.2.position, u.nextRow.2.currentRow?) =
          (some (t.stops calls).length, u.rows[(t.stops calls).length]?)) ∧
      (u.nextRow.1 = false → (t.stops calls).length = u.rows.length)) := by
  intro t u
  have hstart : t.Delivered [] [] := .start rfl
  have h : u.Delivered (t.stops calls) (t.ends calls) := hstart.callAll calls
  exact ⟨rows_callAll t calls, h.stops_eq, h.nextRow_eq_false_iff, h.in_order_iff⟩

/-- A row that is appended after the end was found is never delivered, and a later one is. -/
theorem row_appended_at_end_not_delivered :
    let t := ofRows [⟨"n", "", .integer, .nullable, true, 10, 0⟩] []
    let first := [Cell.value (.int32 1)]
    let second := [Cell.value (.int32 2)]
    (t.moves [.next, .push first, .next]).map (·.1) = [false, false] ∧
      t.stops [.next, .push first, .next] = [] ∧
      t.stops [.next, .push first, .push second, .next] = [(some 1, some second)] := by
  intro t first second
  exact ⟨rfl, rfl, rfl⟩

end ResultTable

end RowCast

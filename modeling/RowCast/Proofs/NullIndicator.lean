import RowCast.Proofs.Delivery
import RowCast.Proofs.HandleRequests
import RowCast.Proofs.Tables

/-!
# The null indicator of tables

Rows are appended to a table, its cursor is moved, cells of the current row are read in all the ways
that there are, and the handles that reads answer are used. Whatever was done before, a read answers
what the cell in the current row is interpreted as. All that it leaves behind is the null indicator,
which tells of the last cell that could be read whether it was NULL.
-/

namespace RowCast

/-- A typed read of a cell. -/
inductive Getter where
  | bool
  | int8
  | int16
  | int32
  | int64
  | float32
  | float64
  | decimal (scale : Int32)
  | string
  | nationalString
  | bytes
  | date
  | time
  | timestamp
  | url
  | blob
  | clob
  | nationalClob
  | xml

namespace Getter

open ResultTable

/-- What a read answers. -/
def Answer : Getter → Type
  | bool => Bool
  | int8 => Int8
  | int16 => Int16
  | int32 => Int32
  | int64 => Int64
  | float32 => Binary32
  | float64 => Binary64
  | decimal _ => Option Decimal
  | string | nationalString => Option String
  | bytes => Option (List UInt8)
  | date => Option Date
  | time => Option TimeOfDay
  | timestamp => Option Timestamp
  | url => Option Url
  | blob => Option (TableHandle UInt8)
  | clob | nationalClob | xml => Option (TableHandle Char)

/-- The read of a column of the current row of a table. -/
def get : (g : Getter) → Nat → Step ResultTable g.Answer
  | bool => rowSource.getBool
  | int8 => rowSource.getInt8
  | int16 => rowSource.getInt16
  | int32 => rowSource.getInt32
  | int64 => rowSource.getInt64
  | float32 => rowSource.getFloat32
  | float64 => rowSource.getFloat64
  | decimal scale => (rowSource.getDecimal · scale)
  | string => rowSource.getString
  | nationalString => rowSource.getNationalString
  | bytes => rowSource.getBytes
  | date => rowSource.getDate
  | time => rowSource.getTime
  | timestamp => rowSource.getTimestamp
  | url => rowSource.getUrl
  | blob => rowSource.openBlob
  | clob => rowSource.openClob
  | nationalClob => rowSource.openNationalClob
  | xml => rowSource.openXml

/-- What a cell answers to a read of it. -/
def interpret : (g : Getter) → Cell → Except Error g.Answer
  | bool => boolOf
  | int8 => fun cell => (narrowOf .int8 "i8" cell).map Int8.ofInt
  | int16 => fun cell => (narrowOf .int16 "i16" cell).map Int16.ofInt
  | int32 => fun cell => (narrowOf .int32 "i32" cell).map Int32.ofInt
  | int64 => fun cell => (integerOf cell).map Int64.ofInt
  | float32 => fun cell => (floatOf cell).map (·.toBinary32)
  | float64 => floatOf
  | decimal scale => decimalOf scale
  | string | nationalString => stringOf
  | bytes => bytesOf
  | date => dateOf
  | time => timeOf
  | timestamp => timestampOf
  | url => urlOf
  | blob => blobOf
  | clob | nationalClob => clobOf
  | xml => xmlOf

/-- Every read interprets the cell that it fetches. -/
theorem get_eq_fetch (g : Getter) (index : Nat) : g.get index = fetch g.interpret index := by
  cases g <;> rfl

/-- The requests on what a read answers: none if it is not a handle. -/
def Request : Getter → Type
  | blob | clob | nationalClob => ObjectRequest
  | xml => DocumentRequest
  | _ => Empty

end Getter

namespace TableHandle

variable {υ ρ α : Type} {serve : ρ → Step (TableHandle υ × ResultTable) α} {release : ρ}
  {reply : TableHandle υ → ρ → α}

/-- The table after requests on a handle, if there is one. -/
def serveAll (serve : ρ → Step (TableHandle υ × ResultTable) α) (requests : List ρ)
    (handle? : Option (TableHandle υ)) (t : ResultTable) : ResultTable :=
  handle?.elim t fun handle => (Step.each (requests.map serve) (handle, t)).2.2

/-- A request changes nothing of a table but the count of released handles. -/
theorem Serves.table_serve (h : Serves serve release reply) (r : ρ) (handle : TableHandle υ)
    (t : ResultTable) : ∃ count, (serve r (handle, t)).2.2 = { t with released := count } := by
  cases hfreed : handle.freed with
  | true => exact ⟨t.released, by rw [h.of_freed hfreed]⟩
  | false =>
    by_cases hr : r = release
    · subst hr
      exact ⟨t.released + 1, by rw [h.release_open hfreed]⟩
    · exact ⟨t.released, by rw [h.look_open hfreed hr]⟩

/-- Requests change nothing of a table but the count of released handles. -/
theorem Serves.table_each (h : Serves serve release reply) (requests : List ρ)
    (handle : TableHandle υ) (t : ResultTable) :
    ∃ count, (Step.each (requests.map serve) (handle, t)).2.2 = { t with released := count } := by
  induction requests generalizing handle t with
  | nil => exact ⟨t.released, rfl⟩
  | cons r rest ih =>
    obtain ⟨count, hserved⟩ := h.table_serve r handle t
    obtain ⟨total, hrest⟩ := ih (serve r (handle, t)).2.1 (serve r (handle, t)).2.2
    exact ⟨total, hrest.trans (by rw [hserved])⟩

/-- Requests on a handle that there may be change nothing of a table but that count. -/
theorem Serves.table_serveAll (h : Serves serve release reply) (requests : List ρ)
    (handle? : Option (TableHandle υ)) (t : ResultTable) :
    ∃ count, serveAll serve requests handle? t = { t with released := count } := by
  cases handle? with
  | none => exact ⟨t.released, rfl⟩
  | some handle => exact h.table_each requests handle t

end TableHandle

/-- The table after requests on what a read has answered. -/
def Getter.serveAll : (g : Getter) → List g.Request → g.Answer → ResultTable → ResultTable
  | blob => TableHandle.serveAll ResultTable.rowSource.blob.serve
  | clob | nationalClob => TableHandle.serveAll ResultTable.rowSource.clob.serve
  | xml => TableHandle.serveAll ResultTable.rowSource.xml.serve
  | _ => fun _ _ t => t

/-- Requests on an answer change nothing of a table but the count of released handles. -/
theorem Getter.serveAll_eq (g : Getter) (requests : List g.Request) (answer : g.Answer)
    (t : ResultTable) : ∃ count, g.serveAll requests answer t = { t with released := count } := by
  cases g with
  | blob => exact (TableHandle.object_serves id).table_serveAll requests answer t
  | clob | nationalClob => exact (TableHandle.object_serves String.ofList).table_serveAll _ answer t
  | xml => exact TableHandle.document_serves.table_serveAll requests answer t
  | _ => exact ⟨t.released, rfl⟩

/-- What can be done with a table: a read may be followed by requests on the handle it answers. -/
inductive TableUse where
  | push (row : List Cell)
  | next
  | get (g : Getter) (index : Nat) (requests : List g.Request)

/-- The call that changes the rows or the position, if a use is one. -/
def TableUse.call? : TableUse → Option TableCall
  | push row => some (.push row)
  | next => some .next
  | get .. => none

/-- A read of a column. -/
structure Read where
  getter : Getter
  index : Nat

/-- Perform a read of the current row of a table. -/
def Read.perform (r : Read) : Step ResultTable (Sigma Getter.Answer) :=
  (r.getter.get r.index).map (Sigma.mk r.getter)

namespace ResultTable

variable {t u v : ResultTable}

/-- The cell of the current row at a column, if there is one and not every read of it fails. -/
def readable? (t : ResultTable) (index : Nat) : Option Cell :=
  match t.currentRow?.bind (·[index]?) with
  | some (.failing _) => none
  | found => found

/-- The null indicator after a read of a column: it is set if the read comes to a cell. -/
def indicatorAt (t : ResultTable) (index : Nat) : Bool :=
  (t.readable? index).elim t.lastNull fun cell => decide (cell = .null)

/-- The table after a use. -/
def use (t : ResultTable) : TableUse → ResultTable
  | .push row => t.pushRow row
  | .next => t.nextRow.2
  | .get g index requests =>
    match g.get index t with
    | (.ok answer, u) => g.serveAll requests answer u
    | (.error _, u) => u

/-- The table after several uses. -/
def useAll (t : ResultTable) (uses : List TableUse) : ResultTable :=
  uses.foldl use t

/-- The cells that the reads among several uses come to, in order. -/
def found (t : ResultTable) : List TableUse → List Cell
  | [] => []
  | .push row :: rest => (t.pushRow row).found rest
  | .next :: rest => t.nextRow.2.found rest
  | .get g index requests :: rest =>
    (t.readable? index).toList ++ (t.use (.get g index requests)).found rest

/-- The cells that can be read are those that are reached. -/
theorem readable?_eq_some_iff {index : Nat} {cell : Cell} :
    t.readable? index = some cell ↔ t.cell index = .ok cell := by
  unfold readable? ResultTable.cell
  cases t.currentRow? with
  | none => simp
  | some row =>
    cases hfound : row[index]? with
    | none => simp [hfound]
    | some found => cases found <;> simp [hfound]

/-- A read that comes to a cell interprets it, and sets the null indicator by it. -/
theorem get_of_readable {index : Nat} {cell : Cell} (h : t.readable? index = some cell)
    (g : Getter) : g.get index t = (g.interpret cell, t.after cell 0) := by
  rw [g.get_eq_fetch, fetch_of_cell (readable?_eq_some_iff.mp h)]

/-- A read that comes to no cell fails and changes nothing. -/
theorem get_of_not_readable {index : Nat} (h : t.readable? index = none) (g : Getter) :
    ∃ e, g.get index t = (.error e, t) := by
  cases hcell : t.cell index with
  | ok cell => cases h.symm.trans (readable?_eq_some_iff.mpr hcell)
  | error e => exact ⟨e, by rw [g.get_eq_fetch, fetch_of_error hcell]⟩

/-- All that a read changes of a table is the null indicator. -/
theorem get_table (t : ResultTable) (g : Getter) (index : Nat) :
    (g.get index t).2 = { t with lastNull := t.indicatorAt index } := by
  unfold indicatorAt
  cases h : t.readable? index with
  | none =>
    obtain ⟨e, hget⟩ := get_of_not_readable h g
    rw [hget]
    rfl
  | some cell =>
    rw [get_of_readable h]
    rfl

/-- A read followed by requests changes the null indicator and the count of released handles. -/
theorem use_get (t : ResultTable) (g : Getter) (index : Nat) (requests : List g.Request) :
    ∃ count, t.use (.get g index requests) =
      { t with lastNull := t.indicatorAt index, released := count } := by
  have htable := get_table t g index
  unfold use
  dsimp only
  split
  · next answer u hget =>
    obtain rfl : u = { t with lastNull := t.indicatorAt index } :=
      (congrArg Prod.snd hget).symm.trans htable
    exact g.serveAll_eq requests answer _
  · next e u hget =>
    exact ⟨t.released, (congrArg Prod.snd hget).symm.trans htable⟩

/-- What a read answers depends only on what the current row has at its column. -/
theorem get_congr {index : Nat}
    (h : v.currentRow?.map (·[index]?) = t.currentRow?.map (·[index]?)) (g : Getter) :
    (g.get index v).1 = (g.get index t).1 := by
  have hcell : v.cell index = t.cell index := by
    unfold cell
    cases hv : v.currentRow? <;> cases ht : t.currentRow? <;> simp_all
  rw [g.get_eq_fetch, fetch, fetch, hcell]
  cases t.cell index <;> rfl

/-- The same call keeps tables at the same row. -/
theorem SameRow.call (h : SameRow v t) (c : TableCall) : SameRow (v.call c) (t.call c) := by
  cases c with
  | push row => exact ⟨h.columns, congrArg (· ++ [row]) h.rows, h.position⟩
  | next =>
    refine ⟨h.columns, h.rows, ?_⟩
    simp only [ResultTable.call, nextRow, nextPosition, h.rows, h.position]

/-- Reads between calls change nothing of the rows and the position that the calls lead to. -/
theorem sameRow_useAll (h : SameRow v t) (uses : List TableUse) :
    SameRow (v.callAll (uses.filterMap TableUse.call?)) (t.useAll uses) := by
  induction uses generalizing v t with
  | nil => exact h
  | cons first rest ih =>
    cases first with
    | push row => exact ih (h.call (.push row))
    | next => exact ih (h.call .next)
    | get g index requests =>
      -- Among the calls there is none for a read: the table it leaves is at the row of the calls.
      obtain ⟨count, huse⟩ := use_get t g index requests
      have hread : SameRow t (t.use (.get g index requests)) := by
        rw [huse]
        exact ⟨rfl, rfl, rfl⟩
      exact ih (h.trans hread)

/-- The null indicator tells of the last cell that reads have come to. -/
theorem lastNull_useAll (t : ResultTable) (uses : List TableUse) :
    (t.useAll uses).lastNull =
      (t.found uses).getLast?.elim t.lastNull fun cell => decide (cell = .null) := by
  induction uses generalizing t with
  | nil => rfl
  | cons first rest ih =>
    cases first with
    | push row => exact ih (t.pushRow row)
    | next => exact ih t.nextRow.2
    | get g index requests =>
      obtain ⟨count, huse⟩ := use_get t g index requests
      refine (ih (t.use (.get g index requests))).trans ?_
      -- If the rest comes to a cell, that one tells; else what this read has left behind stands.
      have hindicator : (t.use (.get g index requests)).lastNull = t.indicatorAt index := by
        rw [huse]
      rw [hindicator, found, List.getLast?_append]
      cases ((t.use (.get g index requests)).found rest).getLast? with
      | some cell => rfl
      | none => cases h : t.readable? index <;> simp [indicatorAt, h]

/-- A read answers at the same row what it answered there before, and stays at the row. -/
theorem SameRow.perform (h : SameRow t u) (r : Read) :
    (r.perform u).1 = (r.perform t).1 ∧ SameRow t (r.perform u).2 := by
  have hrow : u.currentRow? = t.currentRow? := by
    rw [currentRow?, currentRow?, h.rows, h.position]
  have hanswer := get_congr (congrArg (Option.map (·[r.index]?)) hrow) r.getter
  have hread : SameRow u (r.getter.get r.index u).2 := by
    rw [get_table]
    exact ⟨rfl, rfl, rfl⟩
  rw [Read.perform, Step.map_apply, Step.map_apply, hanswer]
  exact ⟨rfl, h.trans hread⟩

/-- Reads at a row answer what each of them answers at once, in any order and any number. -/
theorem SameRow.each_perform (h : SameRow t u) (reads : List Read) :
    (Step.each (reads.map Read.perform) u).1 = reads.map fun r => (r.perform t).1 := by
  induction reads generalizing u with
  | nil => rfl
  | cons r rest ih =>
    obtain ⟨hanswer, hsame⟩ := h.perform r
    rw [List.map_cons, Step.each, List.map_cons, hanswer, ih hsame]

/--
Whatever rows are appended, moves are made, cells are read and handles are used, only the appended
rows and the moves count for the rows and the position, and the null indicator tells whether the
last cell that a read came to was NULL. A read then changes nothing but the indicator, which is
right whenever it answers, and it answers what the current row has at its column, whatever came
before and whatever else is read.
-/
theorem reads_change_only_indicator (columns : List Column) (rows : List (List Cell))
    (uses : List TableUse) :
    let t := ofRows columns rows
    let u := t.useAll uses
    SameRow (t.callAll (uses.filterMap TableUse.call?)) u ∧
    ((rowSource.wasNull u).1 = true ↔ (t.found uses).getLast? = some .null) ∧
    (∀ (g : Getter) (index : Nat),
      (g.get index u).2 = { u with lastNull := (rowSource.wasNull (g.get index u).2).1 } ∧
      (rowSource.wasNull (g.get index u).2).1 =
        (u.readable? index).elim (rowSource.wasNull u).1 (fun cell => decide (cell = .null)) ∧
      (∀ answer, (g.get index u).1 = .ok answer → ∃ cell, u.readable? index = some cell ∧
        ((rowSource.wasNull (g.get index u).2).1 = true ↔ cell = .null)) ∧
      ∀ v : ResultTable, v.currentRow?.map (·[index]?) = u.currentRow?.map (·[index]?) →
        (g.get index v).1 = (g.get index u).1) ∧
    ∀ reads : List Read, (Step.each (reads.map Read.perform) u).1 =
      reads.map fun r => (r.perform u).1 := by
  intro t u
  refine ⟨sameRow_useAll (.refl t) uses, ?_, fun g index => ?_, (SameRow.refl u).each_perform⟩
  · have hlast : u.lastNull = _ := lastNull_useAll t uses
    change u.lastNull = true ↔ _
    rw [hlast]
    cases (t.found uses).getLast? with
    | none => simp [t, ofRows]
    | some cell => simp
  · have htable := get_table u g index
    have hindicator : (rowSource.wasNull (g.get index u).2).1 = u.indicatorAt index := by
      rw [htable]
      rfl
    refine ⟨by rw [hindicator, htable], hindicator, fun answer hanswer => ?_,
      fun v h => get_congr h g⟩
    cases hcell : u.readable? index with
    | none =>
      obtain ⟨e, hfailed⟩ := get_of_not_readable hcell g
      rw [hfailed] at hanswer
      cases hanswer
    | some cell =>
      refine ⟨cell, rfl, ?_⟩
      rw [hindicator, indicatorAt, hcell]
      simp

/-- A failing cell and a column out of range leave the indicator stale; a failed reading sets it. -/
theorem reads_change_only_indicator_of_stale :
    let t := ofRows [] [[.value .null, .failing "broken", .value (.int32 300), .blob [1, 2] 7]]
    let u := t.useAll
      [.next, .get .blob 3 [.length, .free, .free], .get .int32 0 [], .get .string 1 [],
        .get .url 9 []]
    (rowSource.wasNull u).1 = true ∧
      (Getter.int8.get 2 u).1 = .error (.driver "300 out of range for i8") ∧
      (rowSource.wasNull (Getter.int8.get 2 u).2).1 = false ∧
      (Getter.int16.get 2 u).1 = .ok (300 : Int16) ∧
      (∃ cell, u.readable? 2 = some cell ∧
        ((rowSource.wasNull (Getter.int16.get 2 u).2).1 = true ↔ cell = .null)) ∧
      u.released = 1 := by
  intro t u
  obtain ⟨-, hlast, hread, -⟩ := reads_change_only_indicator []
    [[.value .null, .failing "broken", .value (.int32 300), .blob [1, 2] 7]]
    [.next, .get .blob 3 [.length, .free, .free], .get .int32 0 [], .get .string 1 [],
      .get .url 9 []]
  obtain ⟨-, hindicator, -, -⟩ := hread .int8 2
  obtain ⟨-, -, hanswered, -⟩ := hread .int16 2
  exact ⟨hlast.mpr rfl, rfl, hindicator, rfl, hanswered (300 : Int16) rfl, rfl⟩

end ResultTable

end RowCast

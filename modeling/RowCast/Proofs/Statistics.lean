import Mathlib.Data.List.Perm.Basic
import RowCast.Proofs.Batches
import RowCast.Proofs.Description

/-!
# Statistics are exact

What a converter has counted after any requests is what it has built and converted since it was
made. Failures of schemas and records are not counted. A batch that breaks off has counted the rows
that it converted before, although their records are lost.

Counts are numbers modulo `2 ^ 64`; what is added to them is never cut off at zero.
-/

namespace RowCast

/-- The number of fields of a record that hold no value. -/
def Record.unsetCount (record : Record) : Nat :=
  record.slots.countP (·.isNone)

/-- Each slot of a record either holds a value or does not. -/
theorem Record.setCount_add_unsetCount (record : Record) :
    record.setCount + record.unsetCount = record.slots.length := by
  have hcomplement : record.unsetCount = record.slots.countP fun slot => ¬slot.isSome :=
    List.countP_congr fun slot _ => by cases slot <;> simp
  rw [hcomplement]
  exact (List.length_eq_countP_add_countP _).symm

/-- A schema that was built, with the number of columns of its result. -/
structure BuiltSchema where
  columnCount : Nat
  schema : Schema

/-- The counts after some more schemas were built and some more records were converted. -/
def Stats.after (stats : Stats) (built : List BuiltSchema) (converted : List Record) : Stats where
  schemasBuilt := stats.schemasBuilt + .ofNat built.length
  columnsDropped :=
    stats.columnsDropped + .ofNat (built.map fun b => b.columnCount - b.schema.size).sum
  recordsConverted := stats.recordsConverted + .ofNat converted.length
  fieldsUnset := stats.fieldsUnset + .ofNat (converted.map Record.unsetCount).sum

/-- Numbers that count two portions one after the other count both together. -/
theorem Stats.after_after (stats : Stats) (built more : List BuiltSchema)
    (converted further : List Record) :
    (stats.after built converted).after more further =
      stats.after (built ++ more) (converted ++ further) := by
  simp [after, UInt64.ofNat_add, UInt64.add_assoc]

/-- Numbers stay where nothing is built and converted. -/
@[simp] theorem Stats.after_nil (stats : Stats) : stats.after [] [] = stats := by
  simp [after]

namespace Metadata

variable {σ : Type} {metadata : Metadata σ} {table : String} {defaults : Defaults}
  {settings : Settings} {s : σ}

/-- Each column becomes one field at most. -/
theorem fields_length_le {indices : List Nat} {fields : List RecordField}
    (h : (metadata.fields table defaults settings indices s).1 = .ok fields) :
    fields.length ≤ indices.length := by
  induction indices generalizing s fields with
  | nil =>
    cases h
    exact Nat.le_refl 0
  | cons index rest ih =>
    obtain ⟨column, -, h⟩ := Traced.exists_of_bind_ok h
    obtain ⟨field?, -, h⟩ := Traced.exists_of_bind_ok h
    obtain ⟨more, hmore, h⟩ := Traced.exists_of_bind_ok h
    cases h
    have hlength := ih hmore
    cases field? <;> simp <;> omega

/-- The schema that metadata are made into, if they are, with the number of their columns. -/
def built (metadata : Metadata σ) (table : String) (defaults : Defaults) (settings : Settings)
    (s : σ) : List BuiltSchema :=
  match (metadata.columnCount s).1, (metadata.toSchema table defaults settings s).1 with
  | .ok columnCount, .ok schema => [⟨columnCount, schema⟩]
  | _, _ => []

/--
Building a schema fails and builds none, or it gives a schema with at most as many fields as there
are columns, and the columns left over are those that it leaves out.
-/
theorem schemaAndDropped_cases (metadata : Metadata σ) (table : String) (defaults : Defaults)
    (settings : Settings) (s : σ) :
    (∃ e log s', metadata.schemaAndDropped table defaults settings s = (.error e, log, s') ∧
      metadata.built table defaults settings s = []) ∨
    ∃ columnCount schema log s', metadata.schemaAndDropped table defaults settings s =
        (.ok (schema, columnCount - schema.size), log, s') ∧
      schema.size ≤ columnCount ∧
      metadata.built table defaults settings s = [⟨columnCount, schema⟩] := by
  rcases hrun : metadata.schemaAndDropped table defaults settings s with ⟨answer, log, s'⟩
  have hanswer := congrArg Prod.fst hrun
  cases answer with
  | error e =>
    have hschema : (metadata.toSchema table defaults settings s).1 = .error e := by
      unfold toSchema
      rw [Traced.bind_of_error hanswer]
    refine .inl ⟨e, log, s', rfl, ?_⟩
    unfold built
    rw [hschema]
    cases (metadata.columnCount s).1 <;> rfl
  | ok result =>
    have hschema : (metadata.toSchema table defaults settings s).1 = .ok result.1 := by
      unfold toSchema
      rw [Traced.bind_of_ok hanswer]
      rfl
    obtain ⟨columnCount, hcount, hfields⟩ := Traced.exists_of_bind_ok hanswer
    obtain ⟨fields, hfields, hresult⟩ := Traced.exists_of_bind_ok hfields
    have hlength := fields_length_le hfields
    cases hresult
    refine .inr ⟨columnCount, ⟨table, fields⟩, log, s', rfl, ?_, ?_⟩
    · simpa [Schema.size] using hlength
    · unfold built
      rw [hschema, show (metadata.columnCount s).1 = .ok columnCount from hcount]

end Metadata

/-- A record that is made of a row has one slot for each field of its schema. -/
theorem RowSource.toRecord_slots_length {σ β χ ξ : Type} {row : RowSource σ β χ ξ}
    {schema : Schema} {settings : Settings} {s : σ} {record : Record}
    (h : (row.toRecord schema settings s).1 = .ok record) :
    record.slots.length = record.schema.size := by
  cases hcount : (row.columnCount s).1 with
  | error e =>
    rw [toRecord_of_count_error hcount] at h
    cases h
  | ok count =>
    rw [toRecord_answer hcount] at h
    cases h
    simp [Record.empty]

/-- The record that the current row is converted to, if it is. -/
def RowSource.converted {σ β χ ξ : Type} (row : RowSource σ β χ ξ) (schema : Schema)
    (settings : Settings) (s : σ) : List Record :=
  match (row.toRecord schema settings s).1 with
  | .ok record => [record]
  | .error _ => []

/--
The records that the rows of a cursor are converted to one after another, with `fuel` moves at most,
until there is no row left or one fails.
-/
def Cursor.converted {σ β χ ξ : Type} (cursor : Cursor σ β χ ξ) (schema : Schema)
    (settings : Settings) : Nat → σ → List Record
  | 0, _ => []
  | fuel + 1, s =>
    match cursor.advance s with
    | (.ok true, s) =>
      match cursor.row.toRecord schema settings s with
      | (.ok record, _, s) => record :: cursor.converted schema settings fuel s
      | (.error _, _, _) => []
    | _ => []

/-- The record that a row is converted to has one slot for each field. -/
theorem RowSource.slots_length_of_mem_converted {σ β χ ξ : Type} {row : RowSource σ β χ ξ}
    {schema : Schema} {settings : Settings} {s : σ} {record : Record}
    (h : record ∈ row.converted schema settings s) :
    record.slots.length = record.schema.size := by
  unfold converted at h
  split at h
  · next made hmade =>
    cases List.mem_singleton.mp h
    exact toRecord_slots_length hmade
  · cases h

/-- The records that rows are converted to have one slot for each field. -/
theorem Cursor.slots_length_of_mem_converted {σ β χ ξ : Type} {cursor : Cursor σ β χ ξ}
    {schema : Schema} {settings : Settings} {fuel : Nat} {s : σ} {record : Record}
    (h : record ∈ cursor.converted schema settings fuel s) :
    record.slots.length = record.schema.size := by
  induction fuel generalizing s with
  | zero => cases h
  | succ fuel ih =>
    unfold converted at h
    split at h
    · split at h
      · next made log next hmade =>
        rcases List.mem_cons.mp h with rfl | h
        · exact RowSource.toRecord_slots_length (congrArg Prod.fst hmade)
        · exact ih h
      · cases h
    · cases h

namespace Converter

variable {σ β χ ξ : Type}

/-- The converter with some more schemas and records counted. -/
def counting (c : Converter) (built : List BuiltSchema) (converted : List Record) : Converter :=
  { c with stats := c.stats.after built converted }

/-- Counting keeps the settings. -/
@[simp] theorem counting_settings (c : Converter) (built : List BuiltSchema)
    (converted : List Record) : (c.counting built converted).settings = c.settings := rfl

/-- A converter stays as it is where nothing is built and converted. -/
@[simp] theorem counting_nil (c : Converter) : c.counting [] [] = c := by
  simp [counting]

/-- A converter that counts two portions one after the other counts both together. -/
theorem counting_counting (c : Converter) (built more : List BuiltSchema)
    (converted further : List Record) :
    (c.counting built converted).counting more further =
      c.counting (built ++ more) (converted ++ further) := by
  simp [counting, Stats.after_after]

/-- A record with one slot for each field is counted with the fields that it leaves empty. -/
theorem countRecord_eq (c : Converter) {record : Record}
    (hlength : record.slots.length = record.schema.size) :
    c.countRecord record = c.counting [] [record] := by
  have hunset : record.schema.size - record.setCount = record.unsetCount := by
    have hslots := record.setCount_add_unsetCount
    omega
  simp [countRecord, counting, Stats.countRecord, Stats.after, hunset]

/-- Building a schema counts it, if it succeeds, and the columns that it leaves out. -/
theorem schemaOf_counting (c : Converter) (metadata : Metadata σ) (table : String)
    (defaults : Defaults) (s : σ) :
    (schemaOf metadata table defaults (c, s)).2.2.1 =
      c.counting (metadata.built table defaults c.settings s) [] := by
  rcases metadata.schemaAndDropped_cases table defaults c.settings s with
    ⟨e, log, s', hrun, hbuilt⟩ | ⟨columnCount, schema, log, s', hrun, -, hbuilt⟩
  · simp [schemaOf, hrun, hbuilt]
  · simp [schemaOf, hrun, hbuilt, countSchema, Stats.countSchema, counting, Stats.after]

/-- A schema that fails leaves the converter as it is. -/
theorem schemaOf_of_error {c : Converter} {metadata : Metadata σ} {table : String}
    {defaults : Defaults} {s : σ} {e : Error}
    (h : (schemaOf metadata table defaults (c, s)).1 = .error e) :
    (schemaOf metadata table defaults (c, s)).2.2.1 = c := by
  unfold schemaOf at h ⊢
  dsimp only at h ⊢
  split at h
  · cases h
  · rfl

/-- A record that fails leaves the converter as it is. -/
theorem recordOf_of_error {c : Converter} {row : RowSource σ β χ ξ} {schema : Schema} {s : σ}
    {e : Error} (h : (recordOf row schema (c, s)).1 = .error e) :
    (recordOf row schema (c, s)).2.2.1 = c := by
  unfold recordOf at h ⊢
  dsimp only at h ⊢
  split at h
  · cases h
  · rfl

/-- Converting a row counts its record, if it makes one. -/
theorem recordOf_counting (c : Converter) (row : RowSource σ β χ ξ) (schema : Schema) (s : σ) :
    (recordOf row schema (c, s)).2.2.1 = c.counting [] (row.converted schema c.settings s) := by
  rcases hrun : row.toRecord schema c.settings s with ⟨e | record, log, s'⟩
  · simp [recordOf, RowSource.converted, hrun]
  · simp only [recordOf, RowSource.converted, hrun]
    exact c.countRecord_eq (RowSource.toRecord_slots_length (congrArg Prod.fst hrun))

/--
Converting the rows of a cursor counts the records that were made, also if it fails in the end, and
answers them if it does not.
-/
theorem recordsOf?_counting {cursor : Cursor σ β χ ξ} {schema : Schema} {fuel : Nat}
    {c c' : Converter} {s s' : σ} {answer : Except Error (List Record)} {log : List Event}
    (h : recordsOf? cursor schema fuel (c, s) = some (answer, log, c', s')) :
    c' = c.counting [] (cursor.converted schema c.settings fuel s) ∧
      ∀ records, answer = .ok records → records = cursor.converted schema c.settings fuel s := by
  -- The induction is on the moves: the rows to come are counted on top of the row just converted.
  induction fuel generalizing c s answer log with
  | zero => cases h
  | succ fuel ih =>
    simp only [recordsOf?] at h
    unfold Cursor.converted
    rcases hadvance : cursor.advance s with ⟨e | _ | _, moved⟩
    · simp only [hadvance] at h ⊢
      cases h
      exact ⟨(counting_nil _).symm, fun _ h => by cases h⟩
    · simp only [hadvance] at h ⊢
      cases h
      exact ⟨(counting_nil _).symm, fun _ h => by cases h; rfl⟩
    · simp only [hadvance] at h ⊢
      rcases hrun : cursor.row.toRecord schema c.settings moved with ⟨e | record, rowLog, next⟩
      · simp only [recordOf, hrun] at h ⊢
        cases h
        exact ⟨(counting_nil _).symm, fun _ h => by cases h⟩
      · have hcount := c.countRecord_eq (RowSource.toRecord_slots_length (congrArg Prod.fst hrun))
        simp only [recordOf, hrun, hcount] at h ⊢
        obtain ⟨⟨rest, more, last, ended⟩, hrest, hlast⟩ := Option.map_eq_some_iff.mp h
        cases hlast
        obtain ⟨rfl, hrecords⟩ := ih hrest
        refine ⟨c.counting_counting [] [] [record] _, fun records h => ?_⟩
        obtain ⟨others, rfl, rfl⟩ : ∃ others, rest = .ok others ∧ records = record :: others := by
          cases rest with
          | error e => cases h
          | ok others => exact ⟨others, rfl, (Except.ok.inj h).symm⟩
        rw [hrecords others rfl, counting_settings]

end Converter

/-- What is asked of a converter, each time of a source of its own in a state of its own. -/
inductive Request : Type 1 where
  | build {σ : Type} (metadata : Metadata σ) (s : σ) (table : String) (defaults : Defaults)
  | convert {σ β χ ξ : Type} (row : RowSource σ β χ ξ) (s : σ) (schema : Schema)
  /-- Convert all rows that are left, with `fuel` moves of the cursor at most. -/
  | convertAll {σ β χ ξ : Type} (cursor : Cursor σ β χ ξ) (s : σ) (schema : Schema) (fuel : Nat)

namespace Request

/-- The converter after a request; nothing if the rows of the request do not come to an end. -/
def serve? (c : Converter) : Request → Option Converter
  | build metadata s table defaults =>
    some (Converter.schemaOf metadata table defaults (c, s)).2.2.1
  | convert row s schema => some (Converter.recordOf row schema (c, s)).2.2.1
  | convertAll cursor s schema fuel =>
    (Converter.recordsOf? cursor schema fuel (c, s)).map (·.2.2.1)

/-- The schema that is built for a request. -/
def built (settings : Settings) : Request → List BuiltSchema
  | build metadata s table defaults => metadata.built table defaults settings s
  | convert .. | convertAll .. => []

/-- The records that rows are converted to for a request, whether they are answered or not. -/
def converted (settings : Settings) : Request → List Record
  | build .. => []
  | convert row s schema => row.converted schema settings s
  | convertAll cursor s schema fuel => cursor.converted schema settings fuel s

/-- A request is counted with what is built and converted for it, and with nothing else. -/
theorem serve?_counting {c c' : Converter} {request : Request} (h : request.serve? c = some c') :
    c' = c.counting (request.built c.settings) (request.converted c.settings) := by
  cases request with
  | build metadata s table defaults =>
    cases h
    exact c.schemaOf_counting metadata table defaults s
  | convert row s schema =>
    cases h
    exact c.recordOf_counting row schema s
  | convertAll cursor s schema fuel =>
    unfold serve? at h
    obtain ⟨⟨answer, log, last, s'⟩, hended, rfl⟩ := Option.map_eq_some_iff.mp h
    exact (Converter.recordsOf?_counting hended).1

/-- Schemas that are built have at most as many fields as there are columns. -/
theorem size_le_of_mem_built {settings : Settings} {request : Request} {b : BuiltSchema}
    (h : b ∈ request.built settings) : b.schema.size ≤ b.columnCount := by
  cases request with
  | build metadata s table defaults =>
    rcases metadata.schemaAndDropped_cases table defaults settings s with
      ⟨e, log, s', -, hbuilt⟩ | ⟨columnCount, schema, log, s', -, hsize, hbuilt⟩
    · simp [built, hbuilt] at h
    · obtain rfl : b = ⟨columnCount, schema⟩ := by simpa [built, hbuilt] using h
      exact hsize
  | convert | convertAll => cases h

/-- Records that are made have one slot for each field. -/
theorem slots_length_of_mem_converted {settings : Settings} {request : Request} {record : Record}
    (h : record ∈ request.converted settings) : record.slots.length = record.schema.size := by
  cases request with
  | build => cases h
  | convert row s schema => exact RowSource.slots_length_of_mem_converted h
  | convertAll cursor s schema fuel => exact Cursor.slots_length_of_mem_converted h

end Request

/-- The converter after several requests, if each of them comes to an end. -/
def Converter.serveAll? (c : Converter) : List Request → Option Converter
  | [] => some c
  | request :: rest => (request.serve? c).bind fun next => next.serveAll? rest

/-- Requests are counted with what is built and converted for all of them. -/
theorem Converter.serveAll?_counting {c c' : Converter} {requests : List Request}
    (h : c.serveAll? requests = some c') :
    c' = c.counting (requests.flatMap (·.built c.settings))
      (requests.flatMap (·.converted c.settings)) := by
  induction requests generalizing c with
  | nil =>
    cases h
    exact (counting_nil _).symm
  | cons request rest ih =>
    obtain ⟨next, hserved, hrest⟩ := Option.bind_eq_some_iff.mp h
    obtain rfl := Request.serve?_counting hserved
    rw [ih hrest, counting_counting]
    rfl

/-- One update of the counts of a converter. -/
inductive StatsCall where
  | schema (dropped : UInt64)
  | record (unset : UInt64)

/-- The counts after an update. -/
def StatsCall.apply (stats : Stats) : StatsCall → Stats
  | schema dropped => stats.countSchema dropped
  | record unset => stats.countRecord unset

/-- Updates come to the same in either order. -/
instance : RightCommutative StatsCall.apply where
  right_comm stats a b := by
    have hcomm (x y z : UInt64) : x + y + z = x + z + y := by ac_rfl
    cases a <;> cases b <;>
      simp [StatsCall.apply, Stats.countSchema, Stats.countRecord, hcomm]

namespace Converter

variable {settings : Settings} {c c' : Converter} {requests : List Request}

/--
After any requests the counts are exact: the schemas that were built, the columns left out of them,
the records that were made, also in batches that broke off, and the fields that hold nothing in
them, all modulo `2 ^ 64`. A schema or record that fails leaves the converter as it is, and in which
order counts are updated does not matter.
-/
theorem stats_count_requests (hc : ofSettings settings = .ok c)
    (h : c.serveAll? requests = some c') :
    let built := requests.flatMap (·.built settings)
    let converted := requests.flatMap (·.converted settings)
    c'.stats.schemasBuilt = .ofNat built.length ∧
    (∀ b ∈ built, b.schema.size ≤ b.columnCount) ∧
    c'.stats.columnsDropped = .ofNat (built.map fun b => b.columnCount - b.schema.size).sum ∧
    c'.stats.recordsConverted = .ofNat converted.length ∧
    (∀ record ∈ converted, record.setCount + record.unsetCount = record.schema.size) ∧
    c'.stats.fieldsUnset = .ofNat (converted.map Record.unsetCount).sum ∧
    (∀ {σ : Type} (metadata : Metadata σ) (s : σ) (table : String) (defaults : Defaults)
        (e : Error), (schemaOf metadata table defaults (c', s)).1 = .error e →
      (schemaOf metadata table defaults (c', s)).2.2.1 = c') ∧
    (∀ {σ β χ ξ : Type} (row : RowSource σ β χ ξ) (s : σ) (schema : Schema)
        (e : Error), (recordOf row schema (c', s)).1 = .error e →
      (recordOf row schema (c', s)).2.2.1 = c') ∧
    ∀ {calls calls' : List StatsCall}, calls.Perm calls' → ∀ stats : Stats,
      calls.foldl StatsCall.apply stats = calls'.foldl StatsCall.apply stats := by
  intro built converted
  obtain rfl : ⟨settings, .zero⟩ = c := by
    unfold ofSettings at hc
    cases hcheck : settings.check with
    | error e => simp [hcheck, Except.map] at hc
    | ok _ => simpa [hcheck, Except.map] using hc
  obtain rfl := serveAll?_counting h
  have hbuilt : ∀ b ∈ built, b.schema.size ≤ b.columnCount := by
    intro b hb
    obtain ⟨request, -, hmem⟩ := List.mem_flatMap.mp hb
    exact Request.size_le_of_mem_built hmem
  have hconverted : ∀ record ∈ converted,
      record.setCount + record.unsetCount = record.schema.size := by
    intro record hrecord
    obtain ⟨request, -, hmem⟩ := List.mem_flatMap.mp hrecord
    rw [record.setCount_add_unsetCount, Request.slots_length_of_mem_converted hmem]
  refine ⟨?_, hbuilt, ?_, ?_, hconverted, ?_, ?_, ?_, fun hperm => hperm.foldl_eq⟩
  · exact UInt64.zero_add _
  · exact UInt64.zero_add _
  · exact UInt64.zero_add _
  · exact UInt64.zero_add _
  · intro σ metadata s table defaults e he
    exact schemaOf_of_error he
  · intro σ β χ ξ row s schema e he
    exact recordOf_of_error he

/--
A schema leaves out one column of two. A batch that breaks off at its second row counts the first
one, in which one field of two is left empty, although it answers no record.
-/
theorem stats_count_requests_of_broken_batch :
    let columns : List Column :=
      [⟨"id", "", .integer, .noNulls, true, 0, 0⟩, ⟨"tags", "", .array, .unknown, true, 0, 0⟩]
    let row : List Cell := [.value (.int32 7), .null]
    let table := ResultTable.ofRows columns [row, row]
    let faulty : Faulty ResultTable := ⟨table, [⟨.advance, none, "gone", 1⟩], none⟩
    let schema : Schema := ⟨"t", [⟨"id", .int32, false, none⟩, ⟨"note", .string, true, none⟩]⟩
    let c : Converter := ⟨.standard, .zero⟩
    let requests : List Request :=
      [.build ResultTable.metadata table "t" fun _ => none,
        .convertAll (Faulty.cursor ResultTable.cursor) faulty schema 2]
    ofSettings .standard = .ok c ∧
      ((recordsOf? (Faulty.cursor ResultTable.cursor) schema 2 (c, faulty)).map fun outcome =>
        outcome.1) = some (.error (.driver "gone")) ∧
      ∃ c', c.serveAll? requests = some c' ∧ c'.stats.schemasBuilt = 1 ∧
        c'.stats.columnsDropped = 1 ∧ c'.stats.recordsConverted = 1 ∧
        c'.stats.fieldsUnset = 1 := by
  intro columns row table faulty schema c requests
  have hc : ofSettings .standard = .ok c := by rfl
  have hbroken : ((recordsOf? (Faulty.cursor ResultTable.cursor) schema 2 (c, faulty)).map
      fun outcome => outcome.1) = some (.error (.driver "gone")) := by rfl
  obtain ⟨c', h⟩ : ∃ c', c.serveAll? requests = some c' := ⟨_, rfl⟩
  obtain ⟨hbuilt, -, hdropped, hconverted, -, hunset, -⟩ := stats_count_requests hc h
  exact ⟨hc, hbroken, c', h, hbuilt, hdropped, hconverted, hunset⟩

end Converter

end RowCast

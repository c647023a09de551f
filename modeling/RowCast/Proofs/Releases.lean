import RowCast.Proofs.Batches
import RowCast.Proofs.Handles

/-!
# Handles are released

Extraction releases every handle that it is handed, and how the releases turn out makes no
difference to what is extracted. A table counts the handles that were released; the count grows by
the handles handed out, over a row as well as over all rows that are left.
-/

namespace RowCast

namespace RowSource

variable {σ η κ β χ ξ : Type}

/-- A row whose handles are released by other means. -/
def withFree (row : RowSource σ β χ ξ) (blob : Step (β × σ) Unit) (clob : Step (χ × σ) Unit)
    (xml : Step (ξ × σ) Unit) : RowSource σ β χ ξ :=
  { row with
    blob := { row.blob with free := blob }
    clob := { row.clob with free := clob }
    xml := { row.xml with free := xml } }

/-- Two ways to release a handle that a null indicator does not tell apart. -/
def AlikeAfter (ask : σ → Bool × σ) (free free' : Step (η × σ) Unit) : Prop :=
  ∀ s, (ask (free s).2.2).1 = (ask (free' s).2.2).1

/-- How a handle is released has no influence on what is read behind it. -/
theorem asked_drainBy_free {ask : σ → Bool × σ} {free free' : Step (η × σ) Unit}
    (h : AlikeAfter ask free free') (use : Step (η × σ) κ) (toValue : κ → Value)
    (acquire : Step σ (Option η)) (s : σ) :
    (asked ask (drainBy free use toValue acquire s)).1 =
      (asked ask (drainBy free' use toValue acquire s)).1 := by
  rcases hacquire : acquire s with ⟨e | _ | handle, s'⟩
  · rw [drainBy_of_error hacquire, drainBy_of_error hacquire]
  · rw [drainBy_of_no_handle hacquire, drainBy_of_no_handle hacquire]
  · rw [drainBy_of_handle hacquire, drainBy_of_handle hacquire]
    cases (use (handle, s')).1 with
    | error e => rfl
    | ok content => simp [asked, Except.map, h (use (handle, s')).2]

/-- Extraction answers the same however handles are released, if the null indicator does. -/
theorem extract_withFree {row : RowSource σ β χ ξ} {blob : Step (β × σ) Unit}
    {clob : Step (χ × σ) Unit} {xml : Step (ξ × σ) Unit}
    (hblob : AlikeAfter row.wasNull blob row.blob.free)
    (hclob : AlikeAfter row.wasNull clob row.clob.free)
    (hxml : AlikeAfter row.wasNull xml row.xml.free) (index : Nat) (columnType : ColumnType)
    (settings : Settings) (s : σ) :
    ((row.withFree blob clob xml).extract index columnType settings s).1 =
      (row.extract index columnType settings s).1 := by
  have hread (plan : ColumnPlan) (s : σ) :
      (asked row.wasNull
          ((row.withFree blob clob xml).readBy plan index settings.maxLobLength s)).1 =
        (asked row.wasNull (row.readBy plan index settings.maxLobLength s)).1 := by
    cases plan with
    | integer width => cases width <;> rfl
    | text source =>
      cases source with
      | standard | national | dataLink => rfl
      | clob | nClob => exact asked_drainBy_free hclob _ _ _ s
      | xml => exact asked_drainBy_free hxml _ _ _ s
    | binary source =>
      cases source with
      | standard => rfl
      | blob => exact asked_drainBy_free hblob _ _ _ s
    | boolean | float32 | float64 | decimal | date | time | timestamp => rfl
  -- The lookup of the plan does not know of the handles.
  have hlookup : (row.withFree blob clob xml).toMetadata = row.toMetadata := rfl
  cases hplan : (row.toMetadata.plan? index columnType settings.mapNumerics s).1 with
  | error e =>
    unfold extract
    rw [hlookup, Traced.bind_lift_of_error hplan, Traced.bind_lift_of_error hplan]
  | ok plan? =>
    cases plan? with
    | none => rw [extract_of_no_plan hplan, extract_of_no_plan (hlookup ▸ hplan)]
    | some plan =>
      rw [extract_of_plan hplan, extract_of_plan (hlookup ▸ hplan), hlookup]
      exact hread plan _

end RowSource

/-- A watched table has released as many handles as it handed out, on top of some. -/
structure Watched.Settled (before : Nat) (w : Watched ResultTable) (t : ResultTable) : Prop where
  source : w.source = t
  allReleased : w.AllReleased
  released : t.released = before + w.opened

namespace ResultTable

/-- As many handles of a table are released in a read as were handed out for it. -/
theorem released_readBy (t : ResultTable) (plan : ColumnPlan) (index : Nat) (limit : UInt64) :
    (rowSource.readBy plan index limit t).2.2.released =
      t.released + rowSource.handsOut plan index t := by
  have hcount {υ : Type} (answer : Except Error (Option (TableHandle υ))) :
      handedOut answer = ColumnPlan.handleCount answer := by
    rcases answer with _ | _ | _ <;> rfl
  cases hcell : t.cell index with
  | error e =>
    have hfetch {α : Type} (opening : Cell → Except Error (Option α)) :
        handedOut (fetch opening index t).1 = 0 := by
      rw [fetch_of_error hcell]
      rfl
    rw [readBy_of_error hcell]
    cases plan with
    | text source => cases source <;> simp [RowSource.handsOut, rowSource, hfetch]
    | binary source => cases source <;> simp [RowSource.handsOut, rowSource, hfetch]
    | _ => rfl
  | ok cell =>
    have hfetch {υ : Type} (opening : Cell → Except Error (Option (TableHandle υ))) :
        handedOut (fetch opening index t).1 = ColumnPlan.handleCount (opening cell) := by
      rw [fetch_of_cell hcell, hcount]
    rw [readBy_of_cell hcell]
    cases plan with
    | text source =>
      cases source <;> simp [RowSource.handsOut, rowSource, hfetch, ColumnPlan.handles, after]
    | binary source =>
      cases source <;> simp [RowSource.handsOut, rowSource, hfetch, ColumnPlan.handles, after]
    | _ => rfl

end ResultTable

namespace Watched.Settled

variable {before : Nat}

/-- A table that is watched from now on has nothing to release yet. -/
theorem start (t : ResultTable) : Settled t.released (.start t) t :=
  ⟨rfl, allReleased_start t, rfl⟩

/-- A step of a table that concerns no handle is alike when watched. -/
theorem plain_alike {α : Type} {step : Step ResultTable α}
    (h : ∀ t, (step t).2.released = t.released) : (plain step).Alike (Settled before) step := by
  rintro w t ⟨rfl, hall, hreleased⟩
  exact ⟨rfl, rfl, hall, (h _).trans hreleased⟩

/-- Looking at a column is alike when watched. -/
theorem describe_alike {α : Type} (view : Column → α) (index : Nat) :
    (plain (ResultTable.describe view index)).Alike (Settled before)
      (ResultTable.describe view index) := by
  refine plain_alike fun t => ?_
  unfold ResultTable.describe
  split <;> rfl

/-- The rows of tables are alike when watched. -/
theorem rowSource_alike :
    (rowSource ResultTable.rowSource).Alike (Settled before) ResultTable.rowSource where
  columnCount := plain_alike fun _ => rfl
  columnName := describe_alike _
  columnLabel := describe_alike _
  columnType := describe_alike _
  nullability := describe_alike _
  isSigned := describe_alike _
  precision := describe_alike _
  scale := describe_alike _
  readBy plan index limit := by
    rintro w t ⟨rfl, hall, hreleased⟩
    have hread := follows_readBy ResultTable.rowSource plan index limit w
    refine ⟨hread.answer, hread.log, hread.source, hread.handled.allReleased hall, ?_⟩
    rw [ResultTable.released_readBy, hread.opened, hreleased, Nat.add_assoc]
  askNull := by
    rintro w t ⟨rfl, hall, hreleased⟩
    exact ⟨rfl, rfl, hall, hreleased⟩

/-- The cursors of tables are alike when watched. -/
theorem cursor_alike : (cursor ResultTable.cursor).Alike (Settled before) ResultTable.cursor where
  row := rowSource_alike
  advance := plain_alike fun _ => rfl

end Watched.Settled

namespace Watched

variable {σ β χ ξ : Type}

/-- What is done with handles in a run that starts now is all there is to be known of them. -/
theorem Handled.callsOf_of_start {α : Type} {plan : ColumnPlan} {limit : Nat}
    {answer : Except Error α} {s : σ} {w : Watched σ} {log : List Event}
    (h : Handled (plan.Uses limit answer) (start s) w log) :
    (∀ number < w.opened, ∃ before freed,
      w.callsOf number = before ++ [.free freed] ∧ plan.Uses limit answer before) ∧
      log = w.calls.flatMap fun call => call.2.report := by
  cases h with
  | unopened hopened hcalls hlog =>
    rw [hopened, hcalls, hlog]
    exact ⟨fun number h => absurd h (Nat.not_lt_zero number), rfl⟩
  | @released before freed hused hopened hcalls hlog =>
    -- Only releases are reported, so what was done before is not.
    have hsilent : before.flatMap HandleCall.report = [] := by
      refine List.flatMap_eq_nil_iff.mpr fun call hcall => ?_
      cases call with
      | free other => exact absurd hcall (hused.free_not_mem other)
      | length | read | text => rfl
    refine ⟨fun number hnumber => ⟨before, freed, ?_, hused⟩, ?_⟩
    · obtain rfl : number = 0 := by simpa [hopened, start] using hnumber
      rw [callsOf_of_append hcalls]
      rfl
    · rw [hlog, hcalls]
      simp [start, noted, List.flatMap_map, hsilent]

end Watched

open Watched in
/--
Extraction of a large object or document releases each handle that it is handed, once and as the
last thing done with it. Before that a large object is asked for its length, and only within the
limit that length is read from the start; a document is read as text. Failed releases are reported,
for diagnosis, and otherwise make no difference to the answer. Over a row of a table, and over all
its rows that are left, as many handles are released as were handed out.
-/
theorem RowSource.extract_releases_handles {σ β χ ξ : Type} (row : RowSource σ β χ ξ)
    {columnType : ColumnType} {plan : ColumnPlan} (hlarge : columnType.largePlan? = some plan)
    (index : Nat) (settings : Settings) (s : σ) (schema : Schema) (c : Converter)
    (t : ResultTable) :
    (∃ answer log w,
      (rowSource row).extract index columnType settings (start s) = (answer, log, w) ∧
      row.extract index columnType settings s = (answer, log, w.source) ∧
      w.AllReleased ∧
      (∀ number < w.opened, ∃ before freed, w.callsOf number = before ++ [.free freed] ∧
        plan.Uses settings.maxLobLength.toNat answer before) ∧
      (log = w.calls.flatMap fun call => call.2.report) ∧
      ∀ event ∈ log, event.severity = .debug) ∧
    (∀ blob clob xml, AlikeAfter row.wasNull blob row.blob.free →
      AlikeAfter row.wasNull clob row.clob.free → AlikeAfter row.wasNull xml row.xml.free →
      ((row.withFree blob clob xml).extract index columnType settings s).1 =
        (row.extract index columnType settings s).1) ∧
    (∃ answer log w,
      (rowSource ResultTable.rowSource).toRecord schema settings (start t) = (answer, log, w) ∧
      ResultTable.rowSource.toRecord schema settings t = (answer, log, w.source) ∧
      w.AllReleased ∧ w.source.released = t.released + w.opened) ∧
    ∃ answer log c' w,
      Converter.recordsOf? (cursor ResultTable.cursor) schema (t.remaining + 1) (c, start t) =
        some (answer, log, c', w) ∧
      Converter.recordsOfTable schema (c, t) = (answer, log, c', w.source) ∧
      w.AllReleased ∧ w.source.released = t.released + w.opened := by
  refine ⟨?_, fun _ _ _ hblob hclob hxml => ?_, ?_, ?_⟩
  · obtain ⟨count, hfollows⟩ := follows_extract row index hlarge settings (start s)
    rcases hwatched : (rowSource row).extract index columnType settings (start s) with
      ⟨answer, log, w⟩
    rw [hwatched] at hfollows
    have hrun : row.extract index columnType settings s = (answer, log, w.source) :=
      Prod.ext hfollows.answer.symm (Prod.ext hfollows.log.symm hfollows.source.symm)
    obtain ⟨hcalls, hreport⟩ := hfollows.handled.callsOf_of_start
    refine ⟨answer, log, w, rfl, hrun, hfollows.handled.allReleased (allReleased_start s), hcalls,
      hreport, fun event hevent => ?_⟩
    have hlog := row.extract_log index columnType settings s event
    rw [hrun] at hlog
    obtain ⟨cause, rfl⟩ := hlog hevent
    rfl
  · exact extract_withFree hblob hclob hxml index columnType settings s
  · obtain ⟨answer, log, w, u, hwatched, hrun, rfl, hall, hreleased⟩ :=
      (Settled.rowSource_alike.toRecord schema settings).run (Settled.start t)
    exact ⟨answer, log, w, hwatched, hrun, hall, hreleased⟩
  · have hended := Converter.recordsOf?_remaining schema c t
    rcases hrun : Converter.recordsOfTable schema (c, t) with ⟨answer, log, c', u⟩
    rw [hrun] at hended
    obtain ⟨w, hwatched, rfl, hall, hreleased⟩ :=
      Settled.cursor_alike.recordsOf? schema (Settled.start t) hended
    exact ⟨answer, log, c', w, hwatched, rfl, hall, hreleased⟩

open Watched in
/--
The handle of a blob past the limit is released, although the blob is not read; that its release
fails is reported besides.
-/
theorem RowSource.extract_releases_handles_of_oversized_blob :
    let columns : List Column := [⟨"data", "", .blob, .unknown, true, 0, 0⟩]
    let table : ResultTable := ⟨columns, [[.ofBytes [1, 2, 3]]], some 0, false, 0⟩
    let row := Faulty.rowSource ResultTable.rowSource
    let s : Faulty ResultTable := ⟨table, [⟨.free, none, "stuck", 0⟩], none⟩
    let settings : Settings := { Settings.standard with maxLobLength := 2 }
    ∃ answer log w, (rowSource row).extract 0 .blob settings (start s) = (answer, log, w) ∧
      row.extract 0 .blob settings s = (answer, log, w.source) ∧
      w.opened = 1 ∧ ReleasedLast (w.callsOf 0) ∧
      w.callsOf 0 = [.length (.ok 3), .free (.error (.driver "stuck"))] ∧
      answer = .error (.oversizedLargeObject 3 2) ∧ log = [.failedRelease (.driver "stuck")] := by
  intro columns table row s settings
  have hlarge : ColumnType.largePlan? .blob = some (.binary .blob) := rfl
  obtain ⟨⟨answer, log, w, hwatched, hrun, hall, -⟩, -⟩ :=
    RowSource.extract_releases_handles row hlarge 0 settings s ⟨"t", []⟩ ⟨settings, .zero⟩ table
  have hanswer : (row.extract 0 .blob settings s).1 = .error (.oversizedLargeObject 3 2) := by rfl
  have hlog : (row.extract 0 .blob settings s).2.1 = [.failedRelease (.driver "stuck")] := by rfl
  have hopened : w.opened = 1 := by
    cases hwatched
    rfl
  have hcalls : w.callsOf 0 = [.length (.ok 3), .free (.error (.driver "stuck"))] := by
    cases hwatched
    rfl
  rw [hrun] at hanswer hlog
  exact ⟨answer, log, w, hwatched, hrun, hopened, (hall 0).1 (by omega), hcalls, hanswer, hlog⟩

end RowCast

import RowCast.Proofs.Extraction
import RowCast.Proofs.Simulation
import RowCast.Proofs.Watched

/-!
# What is done with handles

A large object or document is read behind a handle, which is released once and as the last thing
done with it, however the calls on it turn out. Watched sources show which calls are made. Watching
changes nothing else: the runs of a watched source follow those of the source.
-/

namespace RowCast

/-- What a call on a handle is reported as: only a failed release is. -/
def HandleCall.report : HandleCall → List Event
  | .free (.error e) => [.failedRelease e]
  | _ => []

/-- The calls on a handle end with its release, and it is released only there. -/
def ReleasedLast (calls : List HandleCall) : Prop :=
  ∃ before answer, calls = before ++ [.free answer] ∧ ∀ other, .free other ∉ before

/--
The calls on the handle of a large object before its release: its length is asked for, and within
the limit that length is read from the start.
-/
def wholeReadCalls (limit : Nat) (length : Except Error Nat) : List HandleCall :=
  .length length ::
    match length with
    | .ok l => if l ≤ limit then [.read 0 l] else []
    | .error _ => []

/-- A large object was read whole, or failed because its length was unknown or past the limit. -/
def ReadWhole {α : Type} (limit : Nat) (answer : Except Error α) (used : List HandleCall) : Prop :=
  ∃ length, used = wholeReadCalls limit length ∧
    (∀ e, length = .error e → answer = .error e) ∧
    ∀ l, length = .ok l → limit < l → answer = .error (.oversizedLargeObject l limit)

/-- The plan for the columns of a type whose values are read behind handles. -/
def ColumnType.largePlan? : ColumnType → Option ColumnPlan
  | .blob => some (.binary .blob)
  | .clob => some (.text .clob)
  | .nClob => some (.text .nClob)
  | .sqlXml => some (.text .xml)
  | _ => none

/-- Columns of large objects and documents have the same plan whatever else is known of them. -/
theorem ColumnType.of?_of_large {columnType : ColumnType} {plan : ColumnPlan}
    (h : columnType.largePlan? = some plan) (signed : Bool) (precision scale : Int32)
    (mapNumerics : Bool) :
    ColumnPlan.of? columnType signed precision scale mapNumerics = some plan := by
  unfold largePlan? at h
  split at h <;> cases h <;> rfl

/-- What is done with a handle that a plan opens, before it is released. -/
def ColumnPlan.Uses {α : Type} (plan : ColumnPlan) (limit : Nat) (answer : Except Error α)
    (used : List HandleCall) : Prop :=
  match plan with
  | .text .clob | .text .nClob | .binary .blob => ReadWhole limit answer used
  | .text .xml => used = [.text]
  | _ => False

/-- Before its release no handle is released. -/
theorem ColumnPlan.Uses.free_not_mem {α : Type} {plan : ColumnPlan} {limit : Nat}
    {answer : Except Error α} {used : List HandleCall} (h : plan.Uses limit answer used)
    (other : Except Error Unit) : .free other ∉ used := by
  have hwhole (h : ReadWhole limit answer used) : .free other ∉ used := by
    obtain ⟨length, rfl, -⟩ := h
    cases length with
    | error e => simp [wholeReadCalls]
    | ok l => by_cases hl : l ≤ limit <;> simp [wholeReadCalls, hl]
  unfold Uses at h
  split at h
  · exact hwhole h
  · exact hwhole h
  · exact hwhole h
  · simp [h]
  · exact absurd h id

section

variable {σ η κ α : Type}

/-- A handle that was handed out is used and then released, whatever the use answers. -/
theorem drainBy_of_handle {free : Step (η × σ) Unit} {use : Step (η × σ) κ} {toValue : κ → Value}
    {acquire : Step σ (Option η)} {s s' : σ} {handle : η}
    (h : acquire s = (.ok (some handle), s')) :
    drainBy free use toValue acquire s =
      ((use (handle, s')).1.map toValue, (HandleCall.free (free (use (handle, s')).2).1).report,
        (free (use (handle, s')).2).2.2) := by
  have hscope : releasing free handle use s' =
      ((use (handle, s')).1, (HandleCall.free (free (use (handle, s')).2).1).report,
        (free (use (handle, s')).2).2.2) := by
    unfold releasing
    dsimp only
    rcases free (use (handle, s')).2 with ⟨_ | _, freed⟩ <;> rfl
  unfold drainBy
  rw [Traced.bind_lift_of_ok (congrArg Prod.fst h), h]
  dsimp only
  cases hanswer : (use (handle, s')).1 with
  | error e =>
    rw [hanswer] at hscope
    rw [Traced.bind_of_error (congrArg Prod.fst hscope), hscope]
    rfl
  | ok content =>
    rw [hanswer] at hscope
    rw [Traced.bind_of_ok (congrArg Prod.fst hscope), hscope]
    simp [Except.map]

/-- Where no handle is handed out, nothing is done with one. -/
theorem drainBy_of_no_handle {acquire : Step σ (Option η)} {s s' : σ}
    (h : acquire s = (.ok none, s')) (free : Step (η × σ) Unit) (use : Step (η × σ) κ)
    (toValue : κ → Value) : drainBy free use toValue acquire s = (.ok .null, [], s') := by
  unfold drainBy
  rw [Traced.bind_lift_of_ok (congrArg Prod.fst h), h]
  rfl

/-- Where opening a handle fails, nothing is done with one. -/
theorem drainBy_of_error {acquire : Step σ (Option η)} {s s' : σ} {e : Error}
    (h : acquire s = (.error e, s')) (free : Step (η × σ) Unit) (use : Step (η × σ) κ)
    (toValue : κ → Value) : drainBy free use toValue acquire s = (.error e, [], s') := by
  unfold drainBy
  rw [Traced.bind_lift_of_error (congrArg Prod.fst h), h]

end

section

variable {σ η κ α : Type}

namespace Watched

/-- Every handle that was handed out was released last and once, and no other was called on. -/
def AllReleased (w : Watched σ) : Prop :=
  ∀ number, (number < w.opened → ReleasedLast (w.callsOf number)) ∧
    (w.opened ≤ number → w.callsOf number = [])

/-- At the start there is no handle to release. -/
theorem allReleased_start (s : σ) : (start s).AllReleased :=
  fun number => ⟨fun h => absurd h (Nat.not_lt_zero number), fun _ => rfl⟩

/-- The calls on the handle of a number, as a watched source notes them. -/
def noted (number : Nat) (calls : List HandleCall) : List (Nat × HandleCall) :=
  calls.map fun call => (number, call)

/--
What a read does with handles: it is handed none, or it is handed one, does with it what is said,
and releases it. It reports just a failed release.
-/
inductive Handled (used : List HandleCall → Prop) (w w' : Watched σ) (log : List Event) : Prop where
  | unopened (hopened : w'.opened = w.opened) (hcalls : w'.calls = w.calls) (hlog : log = [])
  | released {before : List HandleCall} {answer : Except Error Unit} (hused : used before)
    (hopened : w'.opened = w.opened + 1)
    (hcalls : w'.calls = w.calls ++ noted w.opened (before ++ [.free answer]))
    (hlog : log = (HandleCall.free answer).report)

/-- The calls on a handle are those before and those that were added for it. -/
theorem callsOf_of_append {w w' : Watched σ} {number : Nat} {calls : List HandleCall}
    (h : w'.calls = w.calls ++ noted number calls) (other : Nat) :
    w'.callsOf other = w.callsOf other ++ if number = other then calls else [] := by
  unfold callsOf
  rw [h, List.filter_append, List.map_append]
  by_cases hother : number = other <;>
    simp [noted, hother, List.filter_map, Function.comp_def]

/-- A read that uses handles as a plan does leaves no handle unreleased. -/
theorem Handled.allReleased {plan : ColumnPlan} {limit : Nat} {answer : Except Error α}
    {w w' : Watched σ} {log : List Event} (h : Handled (plan.Uses limit answer) w w' log)
    (hw : w.AllReleased) : w'.AllReleased := by
  intro number
  obtain ⟨hold, hnew⟩ := hw number
  cases h with
  | unopened hopened hcalls _ =>
    rw [hopened, callsOf, hcalls]
    exact ⟨hold, hnew⟩
  | @released before freed hused hopened hcalls _ =>
    -- The new handle had no calls before, and the calls on the others stay as they were.
    rw [callsOf_of_append hcalls, hopened]
    by_cases hnumber : w.opened = number
    · refine ⟨fun _ => ?_, fun h => absurd h (by omega)⟩
      rw [hnew (by omega), if_pos hnumber, List.nil_append]
      exact ⟨before, freed, rfl, hused.free_not_mem⟩
    · rw [if_neg hnumber, List.append_nil]
      exact ⟨fun h => hold (by omega), fun h => hnew (by omega)⟩

/-- A watched use of a handle does what the use itself does, and notes the given calls. -/
def Notes (x : Step ((Nat × η) × Watched σ) κ) (use : Step (η × σ) κ)
    (calls : η × σ → List HandleCall) : Prop :=
  ∀ number handle w, x ((number, handle), w) =
    ((use (handle, w.source)).1, (number, (use (handle, w.source)).2.1),
      { w with
        source := (use (handle, w.source)).2.2
        calls := w.calls ++ noted number (calls (handle, w.source)) })

/-- Reading a document is one call. -/
theorem notes_text (document : XmlDocument σ η) :
    Notes (lifting.xmlDocument document).text document.text fun _ => [.text] :=
  fun _ _ _ => rfl

/-- Reading a large object whole makes the calls that its length calls for. -/
theorem notes_readWhole (object : LargeObject σ η κ) (limit : UInt64) :
    Notes ((lifting.largeObject object).readWhole limit) (object.readWhole limit)
      fun s => wholeReadCalls limit.toNat (object.length s).1 := by
  intro number handle w
  have hwatched : (lifting.largeObject object).length ((number, handle), w) =
      ((object.length (handle, w.source)).1, (number, (object.length (handle, w.source)).2.1),
        { w with
          source := (object.length (handle, w.source)).2.2
          calls := w.calls ++ [(number, .length (object.length (handle, w.source)).1)] }) := rfl
  unfold LargeObject.readWhole
  cases hlength : (object.length (handle, w.source)).1 with
  | error e =>
    rw [hlength] at hwatched
    rw [Step.bind_of_error hlength, Step.bind_of_error (congrArg Prod.fst hwatched), hwatched]
    simp [wholeReadCalls, noted, hlength]
  | ok l =>
    rw [hlength] at hwatched
    rw [Step.bind_of_ok hlength, Step.bind_of_ok (congrArg Prod.fst hwatched), hwatched]
    by_cases hlong : limit.toNat < l
    · have hshort : ¬ l ≤ limit.toNat := by omega
      simp [hlong, hshort, wholeReadCalls, noted, Step.fail, hlength]
    · have hshort : l ≤ limit.toNat := by omega
      simp [hlong, hshort, wholeReadCalls, noted, lifting, Lifting.largeObject, calling, hlength]

/--
What a watched run does besides what the run of its source does is to number the handles that are
handed out and to note what is done with them, which is as said.
-/
structure Follows (used : Except Error α → List HandleCall → Prop) (count : Nat) (w : Watched σ)
    (run : Except Error α × List Event × Watched σ) (seen : Except Error α × List Event × σ) :
    Prop where
  answer : run.1 = seen.1
  log : run.2.1 = seen.2.1
  source : run.2.2.source = seen.2.2
  opened : run.2.2.opened = w.opened + count
  handled : Handled (used run.1) w run.2.2 run.2.1

/-- Reads that open no handle follow the reads of the source. -/
theorem follows_ofStep {used : Except Error Value → List HandleCall → Prop} (step : Step σ α)
    (toValue : α → Value) (w : Watched σ) :
    Follows used 0 w (Traced.ofStep ((plain step).map toValue) w)
      (Traced.ofStep (step.map toValue) w.source) := by
  rw [Traced.ofStep_apply, Traced.ofStep_apply, Step.map_apply, Step.map_apply]
  exact ⟨rfl, rfl, rfl, rfl, .unopened rfl rfl rfl⟩

end Watched

/-- What is read whole depends on the length of the large object as said. -/
theorem LargeObject.readWhole_answer (object : LargeObject σ η κ) (toValue : κ → Value)
    (limit : UInt64) (s : η × σ) :
    ReadWhole limit.toNat ((object.readWhole limit s).1.map toValue)
      (wholeReadCalls limit.toNat (object.length s).1) := by
  refine ⟨_, rfl, fun e hlength => ?_, fun l hlength hlong => ?_⟩
  · unfold readWhole
    rw [Step.bind_of_error hlength]
    rfl
  · unfold readWhole
    rw [Step.bind_of_ok hlength, if_pos hlong]
    rfl

/-- The number of handles that a source hands out when it is asked for one. -/
def handedOut : Except Error (Option η) → Nat
  | .ok (some _) => 1
  | _ => 0

namespace Watched

/-- Reading behind a handle that is watched follows reading behind the handle. -/
theorem follows_drainBy {x : Step ((Nat × η) × Watched σ) κ} {use : Step (η × σ) κ}
    {calls : η × σ → List HandleCall} (hx : Notes x use calls) (free : Step (η × σ) Unit)
    (toValue : κ → Value) (acquire : Step σ (Option η))
    {used : Except Error Value → List HandleCall → Prop}
    (hused : ∀ s, used ((use s).1.map toValue) (calls s)) (w : Watched σ) :
    Follows used (handedOut (acquire w.source).1) w
      (drainBy (calling .free free) x toValue (opening acquire) w)
      (drainBy free use toValue acquire w.source) := by
  -- Opening fails, hands out nothing, or hands out a handle, which gets the next number.
  rcases hacquire : acquire w.source with ⟨e | _ | handle, s⟩
  · have hopening : opening acquire w = (.error e, { w with source := s }) := by
      simp only [opening, hacquire]
    rw [drainBy_of_error hacquire, drainBy_of_error hopening]
    exact ⟨rfl, rfl, rfl, rfl, .unopened rfl rfl rfl⟩
  · have hopening : opening acquire w = (.ok none, { w with source := s }) := by
      simp only [opening, hacquire]
    rw [drainBy_of_no_handle hacquire, drainBy_of_no_handle hopening]
    exact ⟨rfl, rfl, rfl, rfl, .unopened rfl rfl rfl⟩
  · have hopening : opening acquire w =
        (.ok (some (w.opened, handle)), { w with source := s, opened := w.opened + 1 }) := by
      simp only [opening, hacquire]
    rw [drainBy_of_handle hacquire, drainBy_of_handle hopening, hx]
    refine ⟨rfl, rfl, rfl, rfl, .released (hused (handle, s)) rfl ?_ rfl⟩
    simp [calling, noted]

end Watched

end

/-- The number of handles that are handed out for a read by a plan. -/
def RowSource.handsOut {σ β χ ξ : Type} (row : RowSource σ β χ ξ) (plan : ColumnPlan)
    (index : Nat) (s : σ) : Nat :=
  match plan with
  | .text .clob => handedOut (row.openClob index s).1
  | .text .nClob => handedOut (row.openNationalClob index s).1
  | .text .xml => handedOut (row.openXml index s).1
  | .binary .blob => handedOut (row.openBlob index s).1
  | _ => 0

namespace Watched

variable {σ β χ ξ : Type}

/-- A read by a plan that is watched follows the read, and uses handles as the plan does. -/
theorem follows_readBy (row : RowSource σ β χ ξ) (plan : ColumnPlan) (index : Nat)
    (limit : UInt64) (w : Watched σ) :
    Follows (plan.Uses limit.toNat) (row.handsOut plan index w.source) w
      ((rowSource row).readBy plan index limit w) (row.readBy plan index limit w.source) := by
  cases plan with
  | integer width => cases width <;> exact follows_ofStep _ _ w
  | text source =>
    cases source with
    | standard | national | dataLink => exact follows_ofStep _ _ w
    | clob | nClob =>
      exact follows_drainBy (notes_readWhole row.clob limit) _ _ _
        (row.clob.readWhole_answer _ limit) w
    | xml => exact follows_drainBy (notes_text row.xml) _ _ _ (fun _ => rfl) w
  | binary source =>
    cases source with
    | standard => exact follows_ofStep _ _ w
    | blob =>
      exact follows_drainBy (notes_readWhole row.blob limit) _ _ _
        (row.blob.readWhole_answer _ limit) w
  | boolean | float32 | float64 | decimal | date | time | timestamp => exact follows_ofStep _ _ w

/-- The metadata of a watched source is alike the metadata, whatever was noted of handles. -/
theorem metadata_alike (m : Metadata σ) (noted : Watched σ) :
    (lifting.metadata m).Alike (fun w s => w = { noted with source := s }) m := by
  refine Lifting.metadata_alike (fun _ _ step => ?_) m
  rintro w s rfl
  exact ⟨rfl, rfl⟩

/-- What is done with handles does not depend on the states of the source. -/
theorem Handled.mono {used used' : List HandleCall → Prop} {w w' : Watched σ} {log : List Event}
    (h : Handled used w w' log) (hused : ∀ calls, used calls → used' calls) (s s' : σ) :
    Handled used' { w with source := s } { w' with source := s' } log := by
  cases h with
  | unopened hopened hcalls hlog => exact .unopened hopened hcalls hlog
  | released hbefore hopened hcalls hlog => exact .released (hused _ hbefore) hopened hcalls hlog

end Watched

/-- The plan that is found for a column of large objects or documents is that of its type. -/
theorem Metadata.plan?_of_large {σ : Type} {m : Metadata σ} {index : Nat} {columnType : ColumnType}
    {plan : ColumnPlan} (hlarge : columnType.largePlan? = some plan) {mapNumerics : Bool} {s : σ}
    {found : Option ColumnPlan} (h : (m.plan? index columnType mapNumerics s).1 = .ok found) :
    found = some plan := by
  obtain ⟨signed, -, h⟩ := Step.exists_of_bind_ok h
  obtain ⟨precision, -, h⟩ := Step.exists_of_bind_ok h
  obtain ⟨scale, -, h⟩ := Step.exists_of_bind_ok h
  cases h
  exact ColumnType.of?_of_large hlarge signed precision scale mapNumerics

/-- What a read comes to once the null indicator is asked, as in extraction. -/
def asked (ask : σ → Bool × σ) :
    Except Error Value × List Event × σ → Except Error (Option Value) × List Event × σ
  | (.error e, log, s) => (.error e, log, s)
  | (.ok value, log, s) => (.ok (some (if (ask s).1 then .null else value)), log, (ask s).2)

/-- A use of handles is as said also where an answer is made into another. -/
theorem ColumnPlan.Uses.of_error {α γ : Type} {plan : ColumnPlan} {limit : Nat}
    {answer : Except Error α} {answer' : Except Error γ} {used : List HandleCall}
    (h : plan.Uses limit answer used) (herror : ∀ e, answer = .error e → answer' = .error e) :
    plan.Uses limit answer' used := by
  have hwhole (h : ReadWhole limit answer used) : ReadWhole limit answer' used := by
    obtain ⟨length, hused, hfailed, hlong⟩ := h
    exact ⟨length, hused, fun e he => herror _ (hfailed e he),
      fun l hl h => herror _ (hlong l hl h)⟩
  unfold Uses at h ⊢
  split at h
  · exact hwhole h
  · exact hwhole h
  · exact hwhole h
  · exact h
  · exact absurd h id

namespace Watched

variable {σ β χ ξ : Type}

/-- What follows a read still does so once the null indicator is asked. -/
theorem Follows.asked {plan : ColumnPlan} {limit count : Nat} {w : Watched σ} {s : σ}
    {run : Except Error Value × List Event × Watched σ} {seen : Except Error Value × List Event × σ}
    (h : Follows (plan.Uses limit) count { w with source := s } run seen)
    (row : RowSource σ β χ ξ) :
    Follows (plan.Uses limit) count w (asked (rowSource row).wasNull run)
      (asked row.wasNull seen) := by
  obtain ⟨answer, log, last⟩ := run
  obtain ⟨answer', log', last'⟩ := seen
  obtain ⟨hanswer, hlog, hsource, hopened, hhandled⟩ := h
  dsimp only at hanswer hlog hsource
  subst hanswer hlog hsource
  cases answer with
  | error e =>
    refine ⟨rfl, rfl, rfl, hopened, hhandled.mono (fun _ h => h.of_error ?_) w.source last.source⟩
    rintro _ ⟨⟩
    rfl
  | ok value =>
    refine ⟨rfl, rfl, rfl, hopened, hhandled.mono (fun _ h => h.of_error ?_) w.source _⟩
    rintro _ ⟨⟩

/-- Extraction of a large object or document from a watched source follows extraction. -/
theorem follows_extract (row : RowSource σ β χ ξ) (index : Nat) {columnType : ColumnType}
    {plan : ColumnPlan} (hlarge : columnType.largePlan? = some plan) (settings : Settings)
    (w : Watched σ) :
    ∃ count, Follows (plan.Uses settings.maxLobLength.toNat) count w
      ((rowSource row).extract index columnType settings w)
      (row.extract index columnType settings w.source) := by
  obtain ⟨found, w', s, hwatched, hfound, rfl⟩ :=
    ((metadata_alike row.toMetadata w).plan? index columnType settings.mapNumerics).run rfl
  change (rowSource row).toMetadata.plan? index columnType settings.mapNumerics w = _ at hwatched
  cases found with
  | error e =>
    refine ⟨0, ?_⟩
    unfold RowSource.extract
    rw [Traced.bind_lift_of_error (congrArg Prod.fst hfound), hfound,
      Traced.bind_lift_of_error (congrArg Prod.fst hwatched), hwatched]
    exact ⟨rfl, rfl, rfl, rfl, .unopened rfl rfl rfl⟩
  | ok plan? =>
    obtain rfl := Metadata.plan?_of_large hlarge (congrArg Prod.fst hfound)
    have hread := follows_readBy row plan index settings.maxLobLength { w with source := s }
    refine ⟨row.handsOut plan index s, ?_⟩
    rw [RowSource.extract_of_plan (congrArg Prod.fst hfound), hfound,
      RowSource.extract_of_plan (congrArg Prod.fst hwatched), hwatched]
    exact hread.asked row

end Watched

end RowCast

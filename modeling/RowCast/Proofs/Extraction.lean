import RowCast.Proofs.Computation

/-!
# What the reads of a column give

The value that a plan reads is NULL or of the type that the plan gives to its field, however the
driver answers. Besides values, reads report handles that could not be released, and nothing else.
What the null indicator does to a value that was read is part of extraction and comes last.
-/

namespace RowCast

/-- Whether a value may come out of a read by a plan: NULL, or a value of the plan's type. -/
def ColumnPlan.Admits (plan : ColumnPlan) (value : Value) : Prop :=
  value = .null ∨ plan.fieldType.accepts value = true

/-- Every event of a log tells of a handle that could not be released. -/
def OnlyFailedReleases (log : List Event) : Prop :=
  ∀ event ∈ log, ∃ cause, event = .failedRelease cause

section

variable {σ η κ α : Type} {plan : ColumnPlan}

/-- A plain read gives what its values are made of. -/
theorem ColumnPlan.admits_of_read {toValue : α → Value} {x : Step σ α} {s : σ} {value : Value}
    (hmade : ∀ a, plan.Admits (toValue a))
    (h : (Traced.ofStep (x.map toValue) s).1 = .ok value) : plan.Admits value := by
  obtain ⟨a, -, rfl⟩ := Traced.ofStep_map_ok h
  exact hmade a

/-- An optional answer is NULL or made of what was answered. -/
theorem ColumnPlan.admits_ofOption {toValue : α → Value}
    (haccepts : ∀ a, plan.fieldType.accepts (toValue a) = true) (answer : Option α) :
    plan.Admits (Value.ofOption toValue answer) := by
  cases answer with
  | none => exact .inl rfl
  | some a => exact .inr (haccepts a)

/--
The value behind a handle, if there is one, by a use of the handle. Large objects and documents are
both read in this way.
-/
def drainBy (free : Step (η × σ) Unit) (use : Step (η × σ) κ) (toValue : κ → Value)
    (acquire : Step σ (Option η)) : Traced σ Value := do
  match ← acquire with
  | none => pure .null
  | some handle =>
    let content ← releasing free handle use
    pure (toValue content)

/-- A large object is read whole behind its handle. -/
theorem LargeObject.drain_eq (object : LargeObject σ η κ) (toValue : κ → Value) (limit : UInt64)
    (acquire : Step σ (Option η)) :
    object.drain toValue limit acquire =
      drainBy object.free (object.readWhole limit) toValue acquire := rfl

/-- A document is read as text behind its handle. -/
theorem XmlDocument.drain_eq (document : XmlDocument σ η) (acquire : Step σ (Option η)) :
    document.drain acquire = drainBy document.free document.text .string acquire := rfl

/-- What is read behind a handle gives NULL or what values are made of. -/
theorem ColumnPlan.admits_of_drainBy {free : Step (η × σ) Unit} {use : Step (η × σ) κ}
    {toValue : κ → Value} {acquire : Step σ (Option η)} {s : σ} {value : Value}
    (haccepts : ∀ content, plan.fieldType.accepts (toValue content) = true)
    (h : (drainBy free use toValue acquire s).1 = .ok value) : plan.Admits value := by
  obtain ⟨handle?, -, h⟩ := Traced.exists_of_bind_ok h
  cases handle? with
  | none =>
    cases h
    exact .inl rfl
  | some handle =>
    obtain ⟨content, -, h⟩ := Traced.exists_of_bind_ok h
    cases h
    exact .inr (haccepts content)

/-- A scope with a handle reports at most that the release failed. -/
theorem releasing_log (free : Step (η × σ) Unit) (handle : η) (use : Step (η × σ) α) (s : σ) :
    OnlyFailedReleases (releasing free handle use s).2.1 := by
  intro event h
  unfold releasing at h
  dsimp only at h
  split at h
  · cases h
  · exact ⟨_, List.mem_singleton.mp h⟩

/-- A computation reports failed releases only if both of its parts do. -/
theorem OnlyFailedReleases.bind {γ : Type} {x : Traced σ α} {f : α → Traced σ γ} {s : σ}
    (hx : OnlyFailedReleases (x s).2.1)
    (hf : ∀ a, OnlyFailedReleases (f a (x s).2.2).2.1) :
    OnlyFailedReleases ((x >>= f) s).2.1 := by
  cases hanswer : (x s).1 with
  | error e =>
    rw [Traced.bind_of_error hanswer]
    exact hx
  | ok a =>
    rw [Traced.bind_of_ok hanswer]
    intro event h
    exact (List.mem_append.mp h).elim (hx event) (hf a event)

/-- A silent log has no event at all. -/
theorem OnlyFailedReleases.nil : OnlyFailedReleases [] :=
  fun _ h => absurd h List.not_mem_nil

/-- Reading behind a handle reports failed releases only. -/
theorem drainBy_log (free : Step (η × σ) Unit) (use : Step (η × σ) κ) (toValue : κ → Value)
    (acquire : Step σ (Option η)) (s : σ) :
    OnlyFailedReleases (drainBy free use toValue acquire s).2.1 := by
  refine OnlyFailedReleases.bind OnlyFailedReleases.nil fun handle? => ?_
  cases handle? with
  | none => exact .nil
  | some handle => exact (releasing_log _ _ _ _).bind fun _ => .nil

end

namespace RowSource

variable {σ β χ ξ : Type} {row : RowSource σ β χ ξ} {index : Nat}

open ColumnPlan in
/-- The value that a plan reads has the type of the plan's field, NULL apart. -/
theorem admits_of_readBy {plan : ColumnPlan} {limit : UInt64} {s : σ} {value : Value}
    (h : (row.readBy plan index limit s).1 = .ok value) : plan.Admits value := by
  cases plan with
  | boolean => exact admits_of_read (fun _ => .inr rfl) h
  | integer width => cases width <;> exact admits_of_read (fun _ => .inr rfl) h
  | float32 => exact admits_of_read (fun _ => .inr rfl) h
  | float64 => exact admits_of_read (fun _ => .inr rfl) h
  | decimal scale => exact admits_of_read (admits_ofOption fun _ => rfl) h
  | date => exact admits_of_read (admits_ofOption fun _ => rfl) h
  | time => exact admits_of_read (admits_ofOption fun _ => rfl) h
  | timestamp => exact admits_of_read (admits_ofOption fun _ => rfl) h
  | text source =>
    cases source with
    | standard => exact admits_of_read (admits_ofOption fun _ => rfl) h
    | national => exact admits_of_read (admits_ofOption fun _ => rfl) h
    | dataLink => exact admits_of_read (admits_ofOption fun _ => rfl) h
    | clob => exact admits_of_drainBy (fun _ => rfl) h
    | nClob => exact admits_of_drainBy (fun _ => rfl) h
    | xml => exact admits_of_drainBy (fun _ => rfl) h
  | binary source =>
    cases source with
    | standard => exact admits_of_read (admits_ofOption fun _ => rfl) h
    | blob => exact admits_of_drainBy (fun _ => rfl) h

/-- Reading by a plan reports failed releases only. -/
theorem readBy_log (row : RowSource σ β χ ξ) (plan : ColumnPlan) (index : Nat) (limit : UInt64)
    (s : σ) : OnlyFailedReleases (row.readBy plan index limit s).2.1 := by
  cases plan with
  | integer width => cases width <;> exact .nil
  | text source =>
    cases source with
    | clob => exact drainBy_log _ _ _ _ _
    | nClob => exact drainBy_log _ _ _ _ _
    | xml => exact drainBy_log _ _ _ _ _
    | standard | national | dataLink => exact .nil
  | binary source =>
    cases source with
    | standard => exact .nil
    | blob => exact drainBy_log _ _ _ _ _
  | boolean | float32 | float64 | decimal | date | time | timestamp => exact .nil

/-- Without a plan nothing is read. -/
theorem extract_of_no_plan {columnType : ColumnType} {settings : Settings} {s : σ}
    (h : (row.toMetadata.plan? index columnType settings.mapNumerics s).1 = .ok none) :
    row.extract index columnType settings s =
      (.ok none, [], (row.toMetadata.plan? index columnType settings.mapNumerics s).2) := by
  unfold extract
  rw [Traced.bind_lift_of_ok h]
  rfl

/--
With a plan the column is read by it, and then the null indicator is asked: where it says NULL, the
value is NULL.
-/
theorem extract_of_plan {columnType : ColumnType} {settings : Settings} {s : σ} {plan : ColumnPlan}
    (h : (row.toMetadata.plan? index columnType settings.mapNumerics s).1 = .ok (some plan)) :
    row.extract index columnType settings s =
      match row.readBy plan index settings.maxLobLength
        (row.toMetadata.plan? index columnType settings.mapNumerics s).2 with
      | (.error e, log, s) => (.error e, log, s)
      | (.ok value, log, s) =>
        (.ok (some (if (row.wasNull s).1 then .null else value)), log, (row.wasNull s).2) := by
  unfold extract
  rw [Traced.bind_lift_of_ok h]
  dsimp only
  rcases hread : row.readBy plan index settings.maxLobLength
    (row.toMetadata.plan? index columnType settings.mapNumerics s).2 with ⟨answer, log, t⟩
  cases answer with
  | error e => simp only [Traced.bind_of_error (congrArg Prod.fst hread), hread]
  | ok value =>
    have hask : (row.askNull t).1 = .ok (row.wasNull t).1 := rfl
    simp only [Traced.bind_of_ok (congrArg Prod.fst hread), hread, Traced.bind_lift_of_ok hask]
    cases (row.wasNull t).1 <;> simp [askNull]

/-- Extraction answers nothing exactly where the column has no plan. -/
theorem extract_eq_none_iff {columnType : ColumnType} {settings : Settings} {s : σ}
    {plan? : Option ColumnPlan}
    (h : (row.toMetadata.plan? index columnType settings.mapNumerics s).1 = .ok plan?) :
    (row.extract index columnType settings s).1 = .ok none ↔ plan? = none := by
  cases plan? with
  | none => simp [extract_of_no_plan h]
  | some plan =>
    rw [extract_of_plan h]
    split <;> simp

/-- Extraction gives a value only by a plan, which admits it. -/
theorem admits_of_extract {columnType : ColumnType} {settings : Settings} {s : σ}
    {plan? : Option ColumnPlan} {value : Value}
    (hplan : (row.toMetadata.plan? index columnType settings.mapNumerics s).1 = .ok plan?)
    (h : (row.extract index columnType settings s).1 = .ok (some value)) :
    ∃ plan, plan? = some plan ∧ plan.Admits value := by
  cases plan? with
  | none =>
    rw [extract_of_no_plan hplan] at h
    cases h
  | some plan =>
    refine ⟨plan, rfl, ?_⟩
    rw [extract_of_plan hplan] at h
    split at h
    · cases h
    · next hread =>
      cases h
      split
      · exact .inl rfl
      · exact admits_of_readBy (congrArg Prod.fst hread)

/-- Extraction reports failed releases only. -/
theorem extract_log (row : RowSource σ β χ ξ) (index : Nat) (columnType : ColumnType)
    (settings : Settings) (s : σ) :
    OnlyFailedReleases (row.extract index columnType settings s).2.1 := by
  unfold extract
  refine OnlyFailedReleases.bind OnlyFailedReleases.nil fun plan? => ?_
  cases plan? with
  | none => exact .nil
  | some plan =>
    refine (readBy_log row plan index settings.maxLobLength _).bind fun value => ?_
    refine OnlyFailedReleases.bind OnlyFailedReleases.nil fun isNull => ?_
    cases isNull <;> exact .nil

/-- Reading a column reports failed releases only. -/
theorem readColumn_log (row : RowSource σ β χ ξ) (settings : Settings) (index : Nat) (s : σ) :
    OnlyFailedReleases (row.readColumn settings index s).2.1 := by
  unfold readColumn
  split
  · exact .nil
  · next columnType field t hidentify =>
    have hlog := row.extract_log index columnType settings t
    split <;> simp_all

end RowSource

end RowCast

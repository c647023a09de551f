import RowCast.Proofs.Defaults
import RowCast.Proofs.Persistence
import RowCast.Proofs.ScaledDecimals

/-!
# Stored schemas of results

A schema that was built of metadata has no other defaults than NULL and what literals are read as.
No literal is read as a decimal zero with a minus sign or as a time in a leap second within a
minute, but there are literals of infinities and of what is no number, and these are all that keeps
a built schema from being loaded again.
-/

namespace RowCast

/-- What is read as a decimal is an integer, taken as digits at the scale of the type. -/
theorem Literal.exists_of_readDecimal {scale : Int32} {s : List Char} {d : Decimal}
    (h : readDecimal scale s = .ok d) :
    ∃ n, readInt .int64 s = .ok n ∧ Decimal.ofScaled? (Int64.ofInt n) scale = some d := by
  unfold readDecimal at h
  cases hread : readInt .int64 s with
  | error cause =>
    rw [hread] at h
    cases h
  | ok n =>
    rw [hread] at h
    cases hscaled : Decimal.ofScaled? (Int64.ofInt n) scale with
    | none => simp [bind, Except.bind, hscaled] at h
    | some d' =>
      simp [bind, Except.bind, hscaled] at h
      exact ⟨n, rfl, hscaled.trans (congrArg some h)⟩

/-- No text is read as a time in a leap second within a minute. -/
theorem TimeOfDay.leapEndsMinute_of_read {s : List Char} {t : TimeOfDay} (h : read s = .ok t) :
    t.LeapEndsMinute := by
  unfold read at h
  cases hfields : readExactly timePattern s with
  | error e =>
    rw [hfields] at h
    cases h
  | ok fields =>
    rw [hfields] at h
    exact TemporalFields.leapEndsMinute_of_toTime h

/-- No text is read as an instant in a leap second within a minute. -/
theorem Timestamp.leapEndsMinute_of_read {s : List Char} {t : Timestamp} (h : read s = .ok t) :
    t.time.LeapEndsMinute := by
  unfold read at h
  obtain ⟨fields, -, h⟩ := Except.exists_of_bind_ok h
  obtain ⟨date, -, h⟩ := Except.exists_of_bind_ok h
  obtain ⟨time, htime, h⟩ := Except.exists_of_bind_ok h
  cases h
  exact TemporalFields.leapEndsMinute_of_toTime htime

/-- What a literal is read as comes back of its stored form if it is finite. -/
theorem FieldType.isStorable_of_readLiteral {type : FieldType} {literal : String} {v : Value}
    (h : type.readLiteral literal = .ok v) : v.isStorable = v.isFinite := by
  have haccepts := accepts_of_readLiteral h
  cases v with
  | decimal d =>
    cases type with
    | decimal scale =>
      obtain ⟨_, hread, hd⟩ := Except.exists_of_map_ok h
      cases hd
      obtain ⟨_, -, hscaled⟩ := Literal.exists_of_readDecimal hread
      obtain ⟨-, -, hsign, -⟩ := Decimal.ofScaled?_eq_some_iff.mp hscaled
      cases hnegative : d.negative <;>
        simp_all [Value.isStorable, Value.isFinite, Decimal.isNegativeZero]
    | _ => cases haccepts
  | time t =>
    cases type with
    | time =>
      obtain ⟨_, hread, ht⟩ := Except.exists_of_map_ok h
      cases ht
      exact decide_eq_true (TimeOfDay.leapEndsMinute_of_read (Except.mapError_eq_ok_iff.mp hread))
    | _ => cases haccepts
  | timestamp t =>
    cases type with
    | timestamp =>
      obtain ⟨_, hread, ht⟩ := Except.exists_of_map_ok h
      cases ht
      exact decide_eq_true (Timestamp.leapEndsMinute_of_read (Except.mapError_eq_ok_iff.mp hread))
    | _ => cases haccepts
  | _ => rfl

/-- A default that a literal gives comes back of its stored form if it is finite. -/
theorem FieldType.Gives.isStorable {type : FieldType} {v : Value} (h : type.Gives v) :
    v.isStorable = v.isFinite := by
  obtain rfl | ⟨literal, hread⟩ := h
  · rfl
  · exact isStorable_of_readLiteral hread

/-- The fields of a built schema have no defaults but those that literals give. -/
theorem Metadata.gives_of_toSchema {σ : Type} {metadata : Metadata σ} {table : String}
    {defaults : Defaults} {settings : Settings} {s : σ} {schema : Schema}
    (h : (metadata.toSchema table defaults settings s).1 = .ok schema) :
    ∀ field ∈ schema.fields, ∀ v ∈ field.default?, field.type.Gives v := by
  obtain ⟨columns, -, hfields⟩ := fields_of_toSchema h
  intro field hfield v hv
  rw [hfields] at hfield
  obtain ⟨column, -, hmade⟩ := List.mem_filterMap.mp hfield
  obtain ⟨plan, -, rfl⟩ := Option.map_eq_some_iff.mp hmade
  exact FieldType.gives_of_default? hv

/--
A schema that was built of any metadata comes back if all its defaults are finite. With an infinity
or a float that is no number among them its stored form is none of a schema.
-/
theorem Metadata.toSchema_stored {σ : Type} {metadata : Metadata σ} {table : String}
    {defaults : Defaults} {settings : Settings} {s : σ} {schema : Schema}
    (h : (metadata.toSchema table defaults settings s).1 = .ok schema) :
    Schema.decode schema.encode = if schema.hasFiniteDefaults then some schema else none := by
  cases hfinite : schema.hasFiniteDefaults with
  | false =>
    rw [schema.decode_encode, hfinite]
    rfl
  | true =>
    refine schema.decode_encode_iff.mpr fun field hfield v hv => ?_
    rw [(gives_of_toSchema h field hfield v hv).isStorable]
    have hdefault : field.default?.all Value.isFinite = true :=
      List.all_eq_true.mp hfinite field hfield
    rw [Option.mem_def.mp hv] at hdefault
    exact hdefault

/-- A schema with an exact default, an explicit NULL and no default comes back. -/
theorem Metadata.toSchema_stored_of_finite_defaults :
    let columns : List Column := [⟨"price", "", .decimal, .noNulls, true, 9, 2⟩,
      ⟨"note", "", .varChar, .nullable, false, 0, 0⟩, ⟨"day", "", .date, .unknown, false, 0, 0⟩]
    let defaults : Defaults := fun name =>
      if name = "price" then some "-5" else if name = "note" then some "NULL" else none
    let schema : Schema := ⟨"t",
      [⟨"price", .decimal 2, false, some (.decimal ⟨true, 5, 2, by decide, by decide⟩)⟩,
        ⟨"note", .string, true, some .null⟩, ⟨"day", .date, true, none⟩]⟩
    (ResultTable.metadata.toSchema "t" defaults .standard (.ofRows columns [])).1 = .ok schema ∧
      Schema.decode schema.encode = some schema := by
  intro columns defaults schema
  have hbuilt : (ResultTable.metadata.toSchema "t" defaults .standard (.ofRows columns [])).1 =
      .ok schema := rfl
  exact ⟨hbuilt, (Metadata.toSchema_stored hbuilt).trans (if_pos rfl)⟩

/-- The literal of an infinity is a default that keeps its schema from coming back. -/
theorem Metadata.toSchema_not_stored_with_infinity :
    let columns : List Column := [⟨"x", "", .double, .nullable, true, 0, 0⟩]
    ∃ schema, (ResultTable.metadata.toSchema "t" (fun _ => some "inf") .standard
      (.ofRows columns [])).1 = .ok schema ∧ Schema.decode schema.encode = none := by
  intro columns
  exact ⟨_, rfl, Schema.decode_encode _⟩

end RowCast

import RowCast.Proofs.LetterCase
import RowCast.Proofs.SchemaReports

/-!
# Defaults that number rows or take the current time

A default of the catalog that begins with the mark of automatic numbering amounts to no literal at
all. Any other one is its own literal, but for those that mention the current time in columns of
days, times or instants: they become the fixed literal of the type. This literal can always be read,
so such a default gives a default to its field, whatever else the text says and by either policy.
-/

namespace RowCast

open Text (BeginsWith Mentions)

namespace CatalogDefault

/-- The type of the fields of a temporal column, and the value that stands for the current time. -/
def fixedTime? : ColumnType → Option (FieldType × Value)
  | .date => some (.date, .date ⟨2000, 1, 1, by decide⟩)
  | .time => some (.time, .time .midnight)
  | .timestamp => some (.timestamp, .timestamp ⟨⟨2000, 1, 1, by decide⟩, .midnight⟩)
  | _ => none

/--
Whether a default takes the time of insertion: it does so in columns of days, times and instants, if
it mentions the current time anywhere and does not begin with the mark of automatic numbering.
-/
def IsCurrentTime (columnType : ColumnType) (raw : String) : Prop :=
  columnType ∈ [ColumnType.date, .time, .timestamp] ∧ Mentions currentTimeMark raw.toList ∧
    ¬ BeginsWith autoincrementMark raw.toList

variable {columnType : ColumnType} {raw literal : String}

/-- The mark of automatic numbering is searched for in either case of letters. -/
theorem isPrefixOf_autoincrementMark_iff :
    autoincrementMark.isPrefixOf (Text.lower raw.toList) = true ↔
      BeginsWith autoincrementMark raw.toList :=
  Text.isPrefixOf_lower_iff rfl

/-- The mark of the current time is searched for in either case of letters. -/
theorem occursIn_currentTimeMark_iff :
    Text.occursIn currentTimeMark (Text.lower raw.toList) = true ↔
      Mentions currentTimeMark raw.toList :=
  Text.occursIn_lower_iff rfl

/-- A default that begins with the mark of automatic numbering amounts to no literal. -/
theorem toLiteral?_of_beginsWith (h : BeginsWith autoincrementMark raw.toList) :
    toLiteral? columnType raw = none :=
  if_pos (isPrefixOf_autoincrementMark_iff.mpr h)

/-- A default that mentions the current time is the literal of its type for that, if it has one. -/
theorem toLiteral?_of_mentions (hmark : ¬ BeginsWith autoincrementMark raw.toList)
    (h : Mentions currentTimeMark raw.toList) :
    toLiteral? columnType raw = some ((placeholder? columnType).getD raw) :=
  (if_neg (mt isPrefixOf_autoincrementMark_iff.mp hmark)).trans
    (if_pos (occursIn_currentTimeMark_iff.mpr h))

/-- A default without either mark is its own literal. -/
theorem toLiteral?_of_not_mentions (hmark : ¬ BeginsWith autoincrementMark raw.toList)
    (h : ¬ Mentions currentTimeMark raw.toList) : toLiteral? columnType raw = some raw :=
  (if_neg (mt isPrefixOf_autoincrementMark_iff.mp hmark)).trans
    (if_neg (mt occursIn_currentTimeMark_iff.mp h))

/-- A default amounts to no literal exactly if it begins with the mark of automatic numbering. -/
theorem toLiteral?_eq_none_iff :
    toLiteral? columnType raw = none ↔ BeginsWith autoincrementMark raw.toList := by
  constructor
  · intro hnone
    by_contra hmark
    by_cases hmention : Mentions currentTimeMark raw.toList
    · rw [toLiteral?_of_mentions hmark hmention] at hnone
      cases hnone
    · rw [toLiteral?_of_not_mentions hmark hmention] at hnone
      cases hnone
  · exact toLiteral?_of_beginsWith

/-- The columns with a literal for the current time are those of days, times and instants. -/
theorem placeholder?_eq_none (h : columnType ∉ [ColumnType.date, .time, .timestamp]) :
    placeholder? columnType = none := by
  unfold placeholder?
  split
  · exact absurd (by decide) h
  · exact absurd (by decide) h
  · exact absurd (by decide) h
  · rfl

/-- A default amounts to itself or, if it takes the current time, to the literal for that. -/
theorem eq_of_toLiteral? (h : toLiteral? columnType raw = some literal) :
    literal = raw ∨ IsCurrentTime columnType raw ∧ placeholder? columnType = some literal := by
  have hmark : ¬ BeginsWith autoincrementMark raw.toList := by
    intro hmark
    rw [toLiteral?_of_beginsWith hmark] at h
    cases h
  by_cases hmention : Mentions currentTimeMark raw.toList
  · rw [toLiteral?_of_mentions hmark hmention] at h
    by_cases htype : columnType ∈ [ColumnType.date, .time, .timestamp]
    · cases hfixed : placeholder? columnType with
      | none =>
        rw [hfixed] at h
        exact .inl (Option.some.inj h).symm
      | some fixed =>
        rw [hfixed] at h
        exact .inr ⟨⟨htype, hmention, hmark⟩, h⟩
    · rw [placeholder?_eq_none htype] at h
      exact .inl (Option.some.inj h).symm
  · rw [toLiteral?_of_not_mentions hmark hmention] at h
    exact .inl (Option.some.inj h).symm

/-- What stands for the current time amounts to itself again. -/
theorem toLiteral?_placeholder (h : placeholder? columnType = some literal) :
    toLiteral? columnType literal = some literal := by
  unfold placeholder? at h
  split at h <;> cases h <;> rfl

/-- What a default amounts to amounts to itself again. -/
theorem toLiteral?_idempotent (h : toLiteral? columnType raw = some literal) :
    toLiteral? columnType literal = some literal := by
  rcases eq_of_toLiteral? h with rfl | ⟨-, hfixed⟩
  · exact h
  · exact toLiteral?_placeholder hfixed

/-- The literal for the current time is read as the day, the midnight or the instant it names. -/
theorem readLiteral_placeholder (h : columnType ∈ [ColumnType.date, .time, .timestamp]) :
    ∃ type value fixed, fixedTime? columnType = some (type, value) ∧
      placeholder? columnType = some fixed ∧ isNull fixed = false ∧
      type.readLiteral fixed = .ok value := by
  simp only [List.mem_cons, List.not_mem_nil, or_false] at h
  rcases h with rfl | rfl | rfl
  · exact ⟨_, _, _, rfl, rfl, by decide, rfl⟩
  · exact ⟨_, _, _, rfl, rfl, by decide, rfl⟩
  · exact ⟨_, _, _, rfl, rfl, by decide, rfl⟩

/-- A default that takes the current time amounts to a literal of the fixed time of its type. -/
theorem IsCurrentTime.reads (h : IsCurrentTime columnType raw) :
    ∃ type value literal, fixedTime? columnType = some (type, value) ∧
      toLiteral? columnType raw = some literal ∧ isNull literal = false ∧
      type.readLiteral literal = .ok value := by
  obtain ⟨htype, hmention, hmark⟩ := h
  obtain ⟨type, value, fixed, hvalue, hfixed, hnull, hread⟩ := readLiteral_placeholder htype
  refine ⟨type, value, fixed, hvalue, ?_, hnull, hread⟩
  rw [toLiteral?_of_mentions hmark hmention, hfixed, Option.getD_some]

end CatalogDefault

open CatalogDefault

namespace Column

variable {column : Column} {raw table : String} {defaults : Defaults} {settings : Settings}

/-- A column of a type with a fixed time is read into fields of the type that goes with it. -/
theorem ofColumn?_of_fixedTime? {type : FieldType} {value : Value}
    (h : fixedTime? column.columnType = some (type, value)) (mapNumerics : Bool) :
    ∃ plan, ColumnPlan.ofColumn? column mapNumerics = some plan ∧ plan.fieldType = type := by
  unfold ColumnPlan.ofColumn?
  unfold fixedTime? at h
  split at h
  · next htype =>
    cases h
    exact ⟨.date, by rw [htype]; rfl, rfl⟩
  · next htype =>
    cases h
    exact ⟨.time, by rw [htype]; rfl, rfl⟩
  · next htype =>
    cases h
    exact ⟨.timestamp, by rw [htype]; rfl, rfl⟩
  · cases h

/-- A column that takes the current time becomes a field with the fixed time as its default. -/
theorem toField_of_isCurrentTime {type : FieldType} {value : Value}
    (h : IsCurrentTime column.columnType raw)
    (hfixed : fixedTime? column.columnType = some (type, value)) (mapNumerics : Bool) :
    column.toField (toLiteral? column.columnType raw) mapNumerics =
      (.ok (some ⟨column.fieldName, type, column.isOptional, some value⟩), []) := by
  obtain ⟨_, _, literal, hfound, hliteral, hnull, hread⟩ := h.reads
  cases hfixed.symm.trans hfound
  obtain ⟨plan, hplan, rfl⟩ := ofColumn?_of_fixedTime? hfixed mapNumerics
  simp [toField, hplan, hliteral, fieldBy, defaultValue, hnull, hread, Except.map,
    Except.mapError]

/--
In a schema a column that takes the current time becomes a field with the fixed time as its default,
whatever becomes of defaults that cannot be read.
-/
theorem toFieldIn_of_isCurrentTime {type : FieldType} {value : Value}
    (h : IsCurrentTime column.columnType raw)
    (hfixed : fixedTime? column.columnType = some (type, value))
    (hraw : defaults column.name = some raw) :
    column.toFieldIn table defaults settings =
      (.ok (some ⟨column.fieldName, type, column.isOptional, some value⟩), []) := by
  have hliteral : defaults.literal? column = toLiteral? column.columnType raw := by
    rw [Defaults.literal?, hraw, Option.bind_some]
  rw [toFieldIn, hliteral, toField_of_isCurrentTime h hfixed]

/-- A default that takes the current time is never refused. -/
theorem RefusesDefault.not_isCurrentTime {mapNumerics : Bool} {e : Error}
    (h : column.RefusesDefault defaults mapNumerics e) :
    ∃ raw, defaults column.name = some raw ∧ ¬ IsCurrentTime column.columnType raw := by
  obtain ⟨plan, literal, cause, hplan, hliteral, -, hrefused, -⟩ := h
  obtain ⟨raw, hraw, hliteral⟩ := Option.bind_eq_some_iff.mp hliteral
  refine ⟨raw, hraw, fun hcurrent => ?_⟩
  obtain ⟨type, value, found, hfixed, hfound, -, hread⟩ := hcurrent.reads
  obtain ⟨plan', hplan', rfl⟩ := ofColumn?_of_fixedTime? hfixed mapNumerics
  cases hplan.symm.trans hplan'
  cases hliteral.symm.trans hfound
  cases hrefused.symm.trans hread

end Column

/-- The columns that are read for a schema: all of them, or those before the first failed lookup. -/
def Metadata.ReadsFirst {σ : Type} (metadata : Metadata σ) (s : σ) (columns : List Column) : Prop :=
  (metadata.snapshot s).1 = .ok columns ∨ ∃ e, metadata.FirstFailure s columns e

/--
Building a schema fails at a lookup, or with the default of a column that the strict policy refuses.
-/
theorem Metadata.toSchema_error {σ : Type} {metadata : Metadata σ} {table : String}
    {defaults : Defaults} {settings : Settings} {s : σ} {e : Error}
    (h : (metadata.toSchema table defaults settings s).1 = .error e) :
    (∃ read, metadata.FirstFailure s read e) ∨ settings.defaultPolicy = .fail ∧
      ∃ columns, metadata.ReadsFirst s columns ∧
        ∃ column ∈ columns, column.RefusesDefault defaults settings.mapNumerics e := by
  cases hread : (metadata.snapshot s).1 with
  | error e' =>
    obtain ⟨read, hfailure⟩ := exists_firstFailure hread
    rw [toSchema, Traced.bind_answer, hfailure.schemaAndDropped] at h
    obtain ⟨-, fields, hfields⟩ | ⟨hpolicy, _, column, _, refusal, hsplit, -, hrefused, hfields⟩ :=
      Column.fieldsIn_cases table defaults settings read
    · rw [hfields] at h
      cases h
      exact .inl ⟨read, hfailure⟩
    · rw [hfields] at h
      cases h
      exact .inr ⟨hpolicy, read, .inr ⟨e', hfailure⟩, column, by simp [hsplit], hrefused⟩
  | ok columns =>
    rw [toSchema_answer hread] at h
    obtain ⟨-, fields, hfields⟩ | ⟨hpolicy, _, column, _, refusal, hsplit, -, hrefused, hfields⟩ :=
      Column.fieldsIn_cases table defaults settings columns
    · rw [hfields] at h
      cases h
    · rw [hfields] at h
      cases h
      exact .inr ⟨hpolicy, columns, .inl hread, column, by simp [hsplit], hrefused⟩

namespace CatalogDefault

/--
What defaults of the catalog amount to: nothing if they begin with the mark of automatic numbering,
and else themselves, but for the current time in columns of days, times and instants. What a default
amounts to amounts to itself again. A default that takes the current time always gives the fixed
time of the type to its field, with nothing to report, by either policy. So where a schema cannot be
built, a lookup has failed, or the default that is refused is another one.
-/
theorem toLiteral?_keeps_or_fixes_time (columnType : ColumnType) (raw : String) :
    (toLiteral? columnType raw = none ↔ BeginsWith autoincrementMark raw.toList) ∧
    (∀ literal, toLiteral? columnType raw = some literal →
      toLiteral? columnType literal = some literal ∧
      (literal = raw ∨ columnType ∈ [ColumnType.date, .time, .timestamp] ∧
        Mentions currentTimeMark raw.toList)) ∧
    (IsCurrentTime columnType raw →
      ∃ type value, fixedTime? columnType = some (type, value) ∧
        ∀ column : Column, column.columnType = columnType →
          let field : RecordField := ⟨column.fieldName, type, column.isOptional, some value⟩
          (∀ mapNumerics,
            column.toField (toLiteral? columnType raw) mapNumerics = (.ok (some field), [])) ∧
          ∀ table defaults settings, defaults column.name = some raw →
            column.toFieldIn table defaults settings = (.ok (some field), [])) ∧
    ∀ {σ : Type} (metadata : Metadata σ) (table : String) (defaults : Defaults)
        (settings : Settings) (s : σ) (e : Error),
      (metadata.toSchema table defaults settings s).1 = .error e →
        (∃ read, metadata.FirstFailure s read e) ∨ settings.defaultPolicy = .fail ∧
          ∃ columns, metadata.ReadsFirst s columns ∧ ∃ column ∈ columns, ∃ other : String,
            column.RefusesDefault defaults settings.mapNumerics e ∧
            defaults column.name = some other ∧ ¬ IsCurrentTime column.columnType other := by
  refine ⟨toLiteral?_eq_none_iff, fun literal h => ⟨toLiteral?_idempotent h, ?_⟩, fun h => ?_, ?_⟩
  · exact (eq_of_toLiteral? h).imp_right fun hcurrent => ⟨hcurrent.1.1, hcurrent.1.2.1⟩
  · obtain ⟨type, value, _, hfixed, -⟩ := h.reads
    refine ⟨type, value, hfixed, fun column htype => ?_⟩
    subst htype
    exact ⟨Column.toField_of_isCurrentTime h hfixed, fun _ _ _ hraw =>
      Column.toFieldIn_of_isCurrentTime h hfixed hraw⟩
  · intro σ metadata table defaults settings s e h
    refine (Metadata.toSchema_error h).imp_right fun hrefused => ?_
    obtain ⟨hpolicy, columns, hread, column, hmem, hcolumn⟩ := hrefused
    obtain ⟨other, hother, hkept⟩ := hcolumn.not_isCurrentTime
    exact ⟨hpolicy, columns, hread, column, hmem, other, hcolumn, hother, hkept⟩

/-- The current time in the midst of an expression, and behind the mark of automatic numbering. -/
theorem toLiteral?_keeps_or_fixes_time_of_mark_in_midst :
    let column : Column := ⟨"at", "", .timestamp, .noNulls, false, 0, 0⟩
    let value : Value := .timestamp ⟨⟨2000, 1, 1, by decide⟩, .midnight⟩
    IsCurrentTime .timestamp "(Current_TimeStamp + 1)" ∧
      column.toField (toLiteral? .timestamp "(Current_TimeStamp + 1)") true =
        (.ok (some ⟨"at", .timestamp, false, some value⟩), []) ∧
      toLiteral? .timestamp "2000-01-01 00:00:00" = some "2000-01-01 00:00:00" ∧
      toLiteral? .timestamp "AutoIncrement(current_timestamp)" = none := by
  intro column value
  have hmention : Mentions currentTimeMark "(Current_TimeStamp + 1)".toList :=
    ⟨['('], "Current_TimeStamp".toList, " + 1)".toList, rfl, by decide⟩
  have hmark : ¬ BeginsWith autoincrementMark "(Current_TimeStamp + 1)".toList :=
    mt isPrefixOf_autoincrementMark_iff.mpr (by decide)
  have hcurrent : IsCurrentTime .timestamp "(Current_TimeStamp + 1)" :=
    ⟨by decide, hmention, hmark⟩
  obtain ⟨-, hliteral, hfield, -⟩ :=
    toLiteral?_keeps_or_fixes_time .timestamp "(Current_TimeStamp + 1)"
  obtain ⟨hnone, -⟩ := toLiteral?_keeps_or_fixes_time .timestamp "AutoIncrement(current_timestamp)"
  obtain ⟨type, _, hfixed, hbuilt⟩ := hfield hcurrent
  cases hfixed
  exact ⟨hcurrent, (hbuilt column rfl).1 true, (hliteral _ (by decide)).1,
    hnone.mpr ⟨"AutoIncrement".toList, "(current_timestamp)".toList, rfl, by decide⟩⟩

end CatalogDefault

end RowCast

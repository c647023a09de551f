import RowCast.Proofs.IntegerWidths
import RowCast.Proofs.Tables

/-!
# Well-typed cells

What a cell must hold for its column to be read without loss: NULL where that is allowed, or a value
of the type of the field, decimals at the scale of the field, or a large object, document or URL
where the plan of the column reads one. Columns of floats have no such cells but NULL.
-/

namespace RowCast

/-- What a cell holds, as a value: bytes, text, a document and a URL by their content. -/
def Cell.content? : Cell → Option Value
  | .value v => some v
  | .blob data _ => some (.bytes data)
  | .clob data _ => some (.string data)
  | .xml text => some (.string text)
  | .url u => some (.string u.text)
  | .failing _ => none

/--
A cell holds what the fields of a plan are made for: a value of their type, decimals at their scale,
or a large object that reports its true length, a document or a URL where the plan reads one. What
is read as a large object is within the limit.
-/
inductive ColumnPlan.Suits (limit : UInt64) : ColumnPlan → Cell → Prop where
  | boolean (b : Bool) : Suits limit .boolean (.value (.bool b))
  | int8 (n : Int8) : Suits limit (.integer .int8) (.value (.int8 n))
  | int16 (n : Int16) : Suits limit (.integer .int16) (.value (.int16 n))
  | int32 (n : Int32) : Suits limit (.integer .int32) (.value (.int32 n))
  | int64 (n : Int64) : Suits limit (.integer .int64) (.value (.int64 n))
  | decimal {scale : Int32} {d : Decimal} (hscale : d.scale = Decimal.clampScale scale) :
    Suits limit (.decimal scale) (.value (.decimal d))
  | text {source : TextSource} (hsource : source = .standard ∨ source = .national ∨ source = .xml)
    (s : String) : Suits limit (.text source) (.value (.string s))
  | largeText {source : TextSource} (hsource : source = .clob ∨ source = .nClob) {s : String}
    {cell : Cell} (hcell : cell = .value (.string s) ∨ cell = .clob s s.length)
    (hlength : s.length ≤ limit.toNat) : Suits limit (.text source) cell
  | url (u : Url) : Suits limit (.text .dataLink) (.url u)
  | document (text : String) : Suits limit (.text .xml) (.xml text)
  | bytes (data : List UInt8) : Suits limit (.binary .standard) (.value (.bytes data))
  | largeBytes {data : List UInt8} {cell : Cell}
    (hcell : cell = .value (.bytes data) ∨ cell = .blob data data.length)
    (hlength : data.length ≤ limit.toNat) : Suits limit (.binary .blob) cell
  | date (d : Date) : Suits limit .date (.value (.date d))
  | time (t : TimeOfDay) : Suits limit .time (.value (.time t))
  | timestamp (t : Timestamp) : Suits limit .timestamp (.value (.timestamp t))

/-- A cell of a column with a plan suits the plan, or is NULL where that is allowed. -/
def Column.WellTyped (settings : Settings) (column : Column) (cell : Cell) : Prop :=
  ∀ plan, ColumnPlan.ofColumn? column settings.mapNumerics = some plan →
    (cell = .null ∧ column.isOptional = true) ∨ plan.Suits settings.maxLobLength cell

/-- A decimal that has the scale it is brought to stays as it is. -/
theorem Decimal.rescale_of_scale {d : Decimal} {target : Nat} (target_le : target ≤ 28)
    (h : d.scale = target) : d.rescale target target_le = d := by
  subst h
  unfold rescale
  split
  · rfl
  · simp [appendZeros, zerosAppended]

/-- An integer is read at a width exactly if the cell has it and the width holds it. -/
theorem ResultTable.narrowOf_eq_ok_iff {width : IntegerWidth} {target : String} {cell : Cell}
    {n : Int} :
    narrowOf width target cell = .ok n ↔ integerOf cell = .ok n ∧ width.holds n = true := by
  unfold narrowOf
  cases integerOf cell with
  | error e => simp [bind, Except.bind]
  | ok m =>
    simp only [bind, Except.bind, Except.ok.injEq]
    split
    · next hm =>
      simp only [Except.ok.injEq, iff_self_and]
      rintro rfl
      exact hm
    · next hm =>
      simp only [reduceCtorEq, false_iff, not_and]
      rintro rfl
      exact hm

/-- The integer in a value is read from a cell that holds the value. -/
theorem ResultTable.integerOf_of_integer? {v : Value} {n : Int} (h : v.integer? = some n) :
    integerOf (.value v) = .ok n := by
  cases v with
  | int8 x | int16 x | int32 x | int64 x =>
    cases h
    rfl
  | _ => cases h

namespace ColumnPlan

open ResultTable

variable {limit : UInt64} {plan : ColumnPlan} {cell : Cell}

/-- A large object that reports its true length within the limit is read whole. -/
theorem wholeOf_of_le {υ : Type} (toValue : List υ → Value) {content : List υ} {length : Nat}
    (htrue : content.length = length) (hlimit : length ≤ limit.toNat) :
    wholeOf toValue limit (some ⟨content, length, false⟩) = .ok (toValue content) := by
  have hslice : (⟨content, length, false⟩ : TableHandle υ).slice 0 length = content := by
    simp [TableHandle.slice, ← htrue]
  unfold wholeOf
  dsimp only
  rw [if_neg (Nat.not_lt.mpr hlimit), hslice]

/-- The plan of a width reads the integer of a cell, if the width holds it. -/
theorem interpret_integer_of_holds (limit : UInt64) {width : IntegerWidth} {n : Int}
    (hread : integerOf cell = .ok n) (hholds : width.holds n = true) :
    interpret limit (.integer width) cell = .ok (width.toValue n) := by
  have hnarrow (target : String) : narrowOf width target cell = .ok n :=
    narrowOf_eq_ok_iff.mpr ⟨hread, hholds⟩
  cases width with
  | int64 => simp [interpret, hread, Except.map, IntegerWidth.toValue]
  | _ => simp [interpret, hnarrow, Except.map, IntegerWidth.toValue]

/-- An integer is read back by the plan of its width. -/
theorem interpret_integer (limit : UInt64) :
    (∀ n, interpret limit (.integer .int8) (.value (.int8 n)) = .ok (.int8 n)) ∧
      (∀ n, interpret limit (.integer .int16) (.value (.int16 n)) = .ok (.int16 n)) ∧
      (∀ n, interpret limit (.integer .int32) (.value (.int32 n)) = .ok (.int32 n)) ∧
      ∀ n, interpret limit (.integer .int64) (.value (.int64 n)) = .ok (.int64 n) := by
  have hread {width : IntegerWidth} {n : Int} {v : Value}
      (h : width.holds n = true ∧ width.toValue n = v) :
      interpret limit (.integer width) (.value v) = .ok v := by
    have hinteger : integerOf (.value v) = .ok n := by
      rw [← h.2]
      exact integerOf_of_integer? (IntegerWidth.integer?_toValue h.1)
    rw [interpret_integer_of_holds limit hinteger h.1, h.2]
  obtain ⟨hint8, hint16, hint32, hint64⟩ := IntegerWidth.toValue_toInt
  exact ⟨fun n => hread (hint8 n), fun n => hread (hint16 n), fun n => hread (hint32 n),
    fun n => hread (hint64 n)⟩

/-- A plan reads the content of a cell that suits it, which has the type of its fields. -/
theorem interpret_of_suits (h : plan.Suits limit cell) :
    ∃ value, cell.content? = some value ∧ plan.interpret limit cell = .ok value ∧
      plan.fieldType.accepts value = true := by
  obtain ⟨hint8, hint16, hint32, hint64⟩ := interpret_integer limit
  cases h with
  | boolean b => exact ⟨.bool b, rfl, rfl, rfl⟩
  | int8 n => exact ⟨.int8 n, rfl, hint8 n, rfl⟩
  | int16 n => exact ⟨.int16 n, rfl, hint16 n, rfl⟩
  | int32 n => exact ⟨.int32 n, rfl, hint32 n, rfl⟩
  | int64 n => exact ⟨.int64 n, rfl, hint64 n, rfl⟩
  | @decimal scale d hscale =>
    have hrescale : d.rescaleTo scale = d := Decimal.rescale_of_scale _ hscale
    refine ⟨.decimal d, rfl, ?_, rfl⟩
    simp [interpret, decimalOf, hrescale, Except.map, Value.ofOption]
  | text hsource s =>
    rcases hsource with rfl | rfl | rfl
    · exact ⟨.string s, rfl, rfl, rfl⟩
    · exact ⟨.string s, rfl, rfl, rfl⟩
    · refine ⟨.string s, rfl, ?_, rfl⟩
      simp [interpret, xmlOf, Except.map, Value.ofOption]
  | @largeText source hsource s cell hcell hlength =>
    have hwhole := wholeOf_of_le (fun content => .string (String.ofList content))
      (String.length_toList) hlength
    have hopen : clobOf cell = .ok (some ⟨s.toList, s.length, false⟩) := by
      rcases hcell with rfl | rfl <;> rfl
    have hcontent : cell.content? = some (.string s) := by
      rcases hcell with rfl | rfl <;> rfl
    refine ⟨.string s, hcontent, ?_, rfl⟩
    rcases hsource with rfl | rfl
    · simp [interpret, hopen, Except.bind, hwhole]
    · simp [interpret, hopen, Except.bind, hwhole]
  | url u => exact ⟨.string u.text, rfl, rfl, rfl⟩
  | document text =>
    refine ⟨.string text, rfl, ?_, rfl⟩
    simp [interpret, xmlOf, Except.map, Value.ofOption]
  | bytes data => exact ⟨.bytes data, rfl, rfl, rfl⟩
  | @largeBytes data cell hcell hlength =>
    have hwhole := wholeOf_of_le .bytes rfl hlength
    have hopen : blobOf cell = .ok (some ⟨data, data.length, false⟩) := by
      rcases hcell with rfl | rfl <;> rfl
    have hcontent : cell.content? = some (.bytes data) := by
      rcases hcell with rfl | rfl <;> rfl
    refine ⟨.bytes data, hcontent, ?_, rfl⟩
    simp [interpret, hopen, Except.bind, hwhole]
  | date d => exact ⟨.date d, rfl, rfl, rfl⟩
  | time t => exact ⟨.time t, rfl, rfl, rfl⟩
  | timestamp t => exact ⟨.timestamp t, rfl, rfl, rfl⟩

/-- NULL suits no plan. -/
theorem ne_null_of_suits (h : plan.Suits limit cell) : cell ≠ .null := by
  rintro rfl
  obtain ⟨value, hcontent, -, haccepts⟩ := interpret_of_suits h
  cases hcontent
  cases FieldType.isNull_of_accepts haccepts

/-- Every plan reads something of NULL. -/
theorem interpret_null (limit : UInt64) (plan : ColumnPlan) :
    ∃ value, plan.interpret limit .null = .ok value := by
  cases plan with
  | integer width => cases width <;> exact ⟨_, rfl⟩
  | text source => cases source <;> exact ⟨_, rfl⟩
  | binary source => cases source <;> exact ⟨_, rfl⟩
  | boolean | float32 | float64 | decimal | date | time | timestamp => exact ⟨_, rfl⟩

end ColumnPlan

/-- A column with a well-typed cell offers the content of the cell, which its field may hold. -/
theorem Column.outcome_of_wellTyped {column : Column} {settings : Settings} {cell : Cell}
    {plan : ColumnPlan} (hplan : ColumnPlan.ofColumn? column settings.mapNumerics = some plan)
    (h : column.WellTyped settings cell) :
    ∃ value, cell.content? = some value ∧
      column.outcome settings (.ok cell) = .extracted column.fieldName value ∧
      ((value = .null ∧ column.isOptional = true) ∨ plan.fieldType.accepts value = true) := by
  rcases h plan hplan with ⟨rfl, hoptional⟩ | hsuits
  · obtain ⟨value, hvalue⟩ := ColumnPlan.interpret_null settings.maxLobLength plan
    refine ⟨.null, rfl, ?_, .inl ⟨rfl, hoptional⟩⟩
    simp [outcome, hplan, hvalue]
  · obtain ⟨value, hcontent, hvalue, haccepts⟩ := ColumnPlan.interpret_of_suits hsuits
    have hnull : cell ≠ .null := ColumnPlan.ne_null_of_suits hsuits
    refine ⟨value, hcontent, ?_, .inr haccepts⟩
    simp [outcome, hplan, hvalue, hnull]

/-- Whether a plan reads values through handles. -/
def ColumnPlan.opensHandle : ColumnPlan → Bool
  | .text .clob | .text .nClob | .text .xml | .binary .blob => true
  | _ => false

/-- A plan opens one handle on a cell that suits it, if it reads through handles. -/
theorem ColumnPlan.handles_of_suits {limit : UInt64} {plan : ColumnPlan} {cell : Cell}
    (h : plan.Suits limit cell) : plan.handles cell = if plan.opensHandle then 1 else 0 := by
  cases h with
  | text hsource s => rcases hsource with rfl | rfl | rfl <;> rfl
  | largeText hsource hcell => rcases hsource with rfl | rfl <;> rcases hcell with rfl | rfl <;> rfl
  | largeBytes hcell => rcases hcell with rfl | rfl <;> rfl
  | _ => rfl

/-- No plan opens a handle on NULL. -/
theorem ColumnPlan.handles_null (plan : ColumnPlan) : plan.handles .null = 0 := by
  cases plan with
  | text source => cases source <;> rfl
  | binary source => cases source <;> rfl
  | _ => rfl

/-- Whether the values of a column are read through handles. -/
def Column.opensHandle (column : Column) : Bool :=
  match column.columnType with
  | .blob | .clob | .nClob | .sqlXml => true
  | _ => false

/-- A column is read through handles exactly when its plan is. -/
theorem Column.opensHandle_eq (column : Column) (mapNumerics : Bool) :
    column.opensHandle =
      (ColumnPlan.ofColumn? column mapNumerics).any ColumnPlan.opensHandle := by
  unfold opensHandle ColumnPlan.ofColumn? ColumnPlan.of?
  cases column.columnType with
  | numeric =>
    dsimp only
    split <;> rfl
  | _ => rfl

/-- Well-typed cells that are read through handles are read through one each. -/
theorem Column.handles_of_wellTyped {column : Column} {settings : Settings} {cell : Cell}
    (h : column.WellTyped settings cell) :
    column.handles settings (.ok cell) =
      if (column.opensHandle && cell ≠ .null) = true then 1 else 0 := by
  rw [column.opensHandle_eq settings.mapNumerics]
  unfold handles
  cases hplan : ColumnPlan.ofColumn? column settings.mapNumerics with
  | none => simp
  | some plan =>
    rcases h plan hplan with ⟨rfl, -⟩ | hsuits
    · simp [ColumnPlan.handles_null]
    · have hnull : cell ≠ .null := ColumnPlan.ne_null_of_suits hsuits
      simp [ColumnPlan.handles_of_suits hsuits, hnull]

end RowCast

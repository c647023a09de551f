import RowCast.Proofs.Handles
import RowCast.Proofs.Tables

/-!
# How long extracted objects are

Settings limit the large objects that are read into memory. The limit is put on the length that a
handle reports, and no more than that length is read, so what is extracted keeps to the limit also
where the report is false. Documents have no length to report, and are read as they are.
-/

namespace RowCast

/-- A value of bytes or text is no longer than a limit. -/
def Value.Within (limit : Nat) : Value → Prop
  | .bytes data => data.length ≤ limit
  | .string text => text.length ≤ limit
  | _ => True

namespace ColumnPlan

open ResultTable

/-- What is read of a large object keeps to the limit, whatever length its handle reports. -/
theorem within_of_wholeOf {υ : Type} {toValue : List υ → Value} {limit : UInt64}
    (hlength : ∀ content, content.length ≤ limit.toNat → (toValue content).Within limit.toNat)
    {handle? : Option (TableHandle υ)} {value : Value}
    (h : wholeOf toValue limit handle? = .ok value) : value.Within limit.toNat := by
  cases handle? with
  | none =>
    obtain rfl : .null = value := Except.ok.inj h
    exact trivial
  | some handle =>
    by_cases hlong : limit.toNat < handle.length
    · simp [wholeOf, hlong] at h
    · simp only [wholeOf, if_neg hlong, Except.ok.injEq] at h
      have htaken : (handle.slice 0 handle.length).length ≤ handle.length :=
        List.length_take_le _ _
      rw [← h]
      exact hlength _ (by omega)

/-- What a cell of a large object is read as keeps to the limit. -/
theorem within_of_interpret {columnType : ColumnType} {plan : ColumnPlan}
    (hlarge : columnType.largePlan? = some plan) (htype : columnType ≠ .sqlXml) {limit : UInt64}
    {cell : Cell} {value : Value} (h : plan.interpret limit cell = .ok value) :
    value.Within limit.toNat := by
  have hbytes (content : List UInt8) (hlength : content.length ≤ limit.toNat) :
      (Value.bytes content).Within limit.toNat := hlength
  have htext (content : List Char) (hlength : content.length ≤ limit.toNat) :
      (Value.string (String.ofList content)).Within limit.toNat := by
    simpa [Value.Within] using hlength
  have hread {α : Type} {x : Except Error α} {f : α → Except Error Value}
      (h : x.bind f = .ok value) : ∃ a, f a = .ok value := by
    cases x with
    | error e => cases h
    | ok a => exact ⟨a, h⟩
  unfold ColumnType.largePlan? at hlarge
  split at hlarge <;> cases hlarge
  · obtain ⟨handle?, h⟩ := hread h
    exact within_of_wholeOf hbytes h
  · obtain ⟨handle?, h⟩ := hread h
    exact within_of_wholeOf htext h
  · obtain ⟨handle?, h⟩ := hread h
    exact within_of_wholeOf htext h
  · exact absurd rfl htype

/-- A cell that is read as a document gives the document that it holds, or NULL. -/
theorem interpret_xml {limit : UInt64} {cell : Cell} {value : Value}
    (h : (text .xml).interpret limit cell = .ok value) :
    value = Value.ofOption .string cell.document? := by
  unfold interpret xmlOf at h
  dsimp only at h
  split at h <;> cases h
  · rfl
  · simp [Value.ofOption, Cell.document?]
  · simp [Value.ofOption, Cell.document?]

end ColumnPlan

namespace ResultTable

/-- Finding the plan for a column leaves a table as it is. -/
theorem plan?_table (t : ResultTable) (index : Nat) (columnType : ColumnType)
    (mapNumerics : Bool) : (rowSource.toMetadata.plan? index columnType mapNumerics t).2 = t := by
  have hkeeps {α : Type} (view : Column → α) :
      (describe view index).Alike (fun u v => u = t ∧ v = t) (describe view index) := by
    rintro _ _ ⟨rfl, rfl⟩
    unfold describe
    split <;> exact ⟨rfl, rfl, rfl⟩
  have hplan := (hkeeps (·.signed)).bind fun signed => (hkeeps (·.precision)).bind fun precision =>
    (hkeeps (·.scale)).bind fun scale => Step.Alike.pure (R := fun u v => u = t ∧ v = t)
      (ColumnPlan.of? columnType signed precision scale mapNumerics)
  exact (hplan t t ⟨rfl, rfl⟩).2.1

/--
What is extracted of a large object comes of a cell of the row, which it is read from by the plan of
the column; the cell of NULL is NULL.
-/
theorem exists_cell_of_extract {t : ResultTable} {index : Nat} {columnType : ColumnType}
    {plan : ColumnPlan} (hlarge : columnType.largePlan? = some plan) {settings : Settings}
    {value : Value} (h : (rowSource.extract index columnType settings t).1 = .ok (some value)) :
    ∃ cell read, t.cell index = .ok cell ∧
      plan.interpret settings.maxLobLength cell = .ok read ∧
      value = if cell = .null then .null else read := by
  cases hfound : (rowSource.toMetadata.plan? index columnType settings.mapNumerics t).1 with
  | error e =>
    unfold RowSource.extract at h
    rw [Traced.bind_lift_of_error hfound] at h
    cases h
  | ok found =>
    obtain rfl := Metadata.plan?_of_large hlarge hfound
    rw [RowSource.extract_of_plan hfound, plan?_table] at h
    cases hcell : t.cell index with
    | error e =>
      rw [readBy_of_error hcell] at h
      cases h
    | ok cell =>
      rw [readBy_of_cell hcell] at h
      cases hread : plan.interpret settings.maxLobLength cell with
      | error e => simp [hread] at h
      | ok read =>
        exact ⟨cell, read, rfl, hread, by simpa [hread, rowSource, after, eq_comm] using h⟩

/--
What is extracted of a large object or document keeps to the limit, except where it is a document
that is longer: the limit is not put on documents.
-/
theorem extract_within_iff {t : ResultTable} {index : Nat} {columnType : ColumnType}
    {plan : ColumnPlan} (hlarge : columnType.largePlan? = some plan) {settings : Settings}
    {value : Value} (h : (rowSource.extract index columnType settings t).1 = .ok (some value)) :
    value.Within settings.maxLobLength.toNat ↔
      (columnType = .sqlXml → ∀ cell text, t.cell index = .ok cell → cell.document? = some text →
        text.length ≤ settings.maxLobLength.toNat) := by
  obtain ⟨cell, read, hcell, hread, rfl⟩ := exists_cell_of_extract hlarge h
  have hheld : (∀ other text, t.cell index = .ok other → other.document? = some text →
      text.length ≤ settings.maxLobLength.toNat) ↔
      ∀ text, cell.document? = some text → text.length ≤ settings.maxLobLength.toNat := by
    constructor
    · exact fun h text => h cell text hcell
    · intro h other text hother
      rw [hcell] at hother
      cases hother
      exact h text
  -- Documents alone are read without a look at the limit.
  by_cases htype : columnType = .sqlXml
  · subst htype
    cases hlarge
    obtain rfl := ColumnPlan.interpret_xml hread
    rw [hheld]
    cases hdocument : cell.document? with
    | none => simp [Value.ofOption, Value.Within]
    | some text =>
      have hcontent : cell ≠ .null := by
        rintro rfl
        cases hdocument
      simp [hcontent, Value.ofOption, Value.Within]
  · have hwithin := ColumnPlan.within_of_interpret hlarge htype hread
    refine ⟨fun _ h => absurd h htype, fun _ => ?_⟩
    split
    · exact trivial
    · exact hwithin

/-- A text that is reported shorter than it is keeps to the limit, since it is cut off. -/
theorem extract_within_iff_of_false_length :
    let columns : List Column := [⟨"note", "", .clob, .unknown, true, 0, 0⟩]
    let table : ResultTable := ⟨columns, [[.clob "abc" 2]], some 0, false, 0⟩
    let settings : Settings := { Settings.standard with maxLobLength := 2 }
    (rowSource.extract 0 .clob settings table).1 = .ok (some (.string "ab")) ∧
      (Value.string "ab").Within settings.maxLobLength.toNat := by
  intro columns table settings
  have hlarge : ColumnType.largePlan? .clob = some (.text .clob) := rfl
  have hextract : (rowSource.extract 0 .clob settings table).1 = .ok (some (.string "ab")) := by
    rfl
  exact ⟨hextract, (extract_within_iff hlarge hextract).mpr fun h => by cases h⟩

/-- A document is extracted although it is longer than allowed settings let large objects be. -/
theorem extract_not_within_of_long_document :
    let columns : List Column := [⟨"x", "", .sqlXml, .unknown, true, 0, 0⟩]
    let table : ResultTable := ⟨columns, [[.xml "<a/>"]], some 0, false, 0⟩
    let settings : Settings := { Settings.standard with maxLobLength := 1 }
    settings.check = .ok () ∧
      (rowSource.extract 0 .sqlXml settings table).1 = .ok (some (.string "<a/>")) ∧
      ¬ (Value.string "<a/>").Within settings.maxLobLength.toNat := by
  intro columns table settings
  refine ⟨rfl, rfl, ?_⟩
  change ¬ "<a/>".length ≤ 1
  decide

end ResultTable

end RowCast

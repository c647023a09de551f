import Mathlib.Data.List.Forall2
import RowCast.Conversion.Row
import RowCast.Conversion.Schema
import RowCast.Proofs.Computation

/-!
# Metadata that describes columns

A source presents a list of columns when its metadata lookups answer as the columns say, in every
state that the source can get into. These states are given by an invariant; what the lookups do to
the state otherwise is left open. Plans, names and schemas then depend on the columns alone.
-/

namespace RowCast

/-- A step has one answer in all the states of an invariant, and keeps to them. -/
def Step.Answers {σ α : Type} (inv : σ → Prop) (x : Step σ α) (a : α) : Prop :=
  ∀ s, inv s → (x s).1 = .ok a ∧ inv (x s).2

namespace Step.Answers

variable {σ α β : Type} {inv : σ → Prop}

/-- An answer without a look at the source. -/
theorem pure (a : α) : Step.Answers inv (Pure.pure a : Step σ α) a :=
  fun _ hs => ⟨rfl, hs⟩

/-- Steps that have one answer each compose to one that has the answer of the last. -/
theorem bind {x : Step σ α} {f : α → Step σ β} {a : α} {b : β} (hx : x.Answers inv a)
    (hf : (f a).Answers inv b) : Step.Answers inv (x >>= f) b := by
  intro s hs
  obtain ⟨hanswer, hkept⟩ := hx s hs
  rw [Step.bind_of_ok hanswer]
  exact hf _ hkept

end Step.Answers

/-- The lookups for one position answer as a column says, in all states of an invariant. -/
structure Metadata.Describes {σ : Type} (metadata : Metadata σ) (inv : σ → Prop) (index : Nat)
    (column : Column) : Prop where
  name : (metadata.columnName index).Answers inv column.name
  label : (metadata.columnLabel index).Answers inv column.label
  columnType : ∃ code, (metadata.columnType index).Answers inv code ∧
    .ofCode code = column.columnType
  nullability : (metadata.nullability index).Answers inv column.nullability
  signed : (metadata.isSigned index).Answers inv column.signed
  precision : (metadata.precision index).Answers inv column.precision
  scale : (metadata.scale index).Answers inv column.scale

/-- All lookups succeed in the states of an invariant, and answer as the listed columns say. -/
structure Metadata.Presents {σ : Type} (metadata : Metadata σ) (inv : σ → Prop)
    (columns : List Column) : Prop where
  count : metadata.columnCount.Answers inv columns.length
  describes {index : Nat} {column : Column} (h : columns[index]? = some column) :
    metadata.Describes inv index column

/-- A row presents columns if its metadata does and no read leads out of the invariant. -/
structure RowSource.Presents {σ β χ ξ : Type} (row : RowSource σ β χ ξ) (inv : σ → Prop)
    (columns : List Column) : Prop extends Metadata.Presents row.toMetadata inv columns where
  read (plan : ColumnPlan) (index : Nat) (limit : UInt64) {s : σ} (hs : inv s) :
    inv (row.readBy plan index limit s).2.2
  wasNull {s : σ} (hs : inv s) : inv (row.wasNull s).2

namespace Metadata.Describes

variable {σ : Type} {metadata : Metadata σ} {inv : σ → Prop} {index : Nat} {column : Column}

/-- The plan that a row finds for a described column is the plan of the column. -/
theorem plan (h : metadata.Describes inv index column) (mapNumerics : Bool) :
    (metadata.plan? index column.columnType mapNumerics).Answers inv
      (ColumnPlan.ofColumn? column mapNumerics) :=
  h.signed.bind (h.precision.bind (h.scale.bind (.pure _)))

/-- A row identifies a described column by its type and its field name. -/
theorem identify (h : metadata.Describes inv index column) :
    (metadata.identify index).Answers inv (column.columnType, column.fieldName) := by
  obtain ⟨code, hcode, hofCode⟩ := h.columnType
  rw [← hofCode]
  exact hcode.bind (h.label.bind (h.name.bind (.pure _)))

/-- The snapshot of a described column is the column. -/
theorem read (h : metadata.Describes inv index column) :
    (Column.read metadata index).Answers inv column := by
  obtain ⟨code, hcode, hofCode⟩ := h.columnType
  have hsnapshot : (Column.read metadata index).Answers inv
      { column with columnType := .ofCode code } :=
    h.name.bind (h.label.bind (hcode.bind (h.nullability.bind (h.signed.bind
      (h.precision.bind (h.scale.bind (.pure _)))))))
  rwa [hofCode] at hsnapshot

end Metadata.Describes

namespace Column

variable {column : Column} {table : String} {defaults : Defaults} {settings : Settings}

/-- The field that a column of a table becomes, if it becomes one. -/
def fieldIn? (table : String) (defaults : Defaults) (settings : Settings) (column : Column) :
    Option RecordField :=
  match (column.toFieldIn table defaults settings).1 with
  | .ok field? => field?
  | .error _ => none

/-- A field made by a plan has the name, the nullability and the planned type of its column. -/
theorem fieldBy_ok {plan : ColumnPlan} {literal : Option String} {field : RecordField}
    (h : column.fieldBy plan literal = .ok field) :
    field.name = column.fieldName ∧ field.type = plan.fieldType ∧
      field.optional = column.isOptional := by
  unfold fieldBy at h
  cases literal with
  | none =>
    cases h
    exact ⟨rfl, rfl, rfl⟩
  | some literal =>
    dsimp only at h
    cases hvalue : column.defaultValue plan.fieldType literal with
    | error e =>
      rw [hvalue] at h
      cases h
    | ok value =>
      rw [hvalue] at h
      cases h
      exact ⟨rfl, rfl, rfl⟩

/-- A column becomes no field exactly when it has no plan, and else one that its plan makes. -/
theorem toField_ok {literal : Option String} {mapNumerics : Bool} {field? : Option RecordField}
    (h : (column.toField literal mapNumerics).1 = .ok field?) :
    (ColumnPlan.ofColumn? column mapNumerics = none ∧ field? = none) ∨
      ∃ plan field, ColumnPlan.ofColumn? column mapNumerics = some plan ∧ field? = some field ∧
        column.fieldBy plan literal = .ok field := by
  unfold toField at h
  cases hplan : ColumnPlan.ofColumn? column mapNumerics with
  | none =>
    rw [hplan] at h
    cases h
    exact .inl ⟨rfl, rfl⟩
  | some plan =>
    rw [hplan] at h
    dsimp only at h
    cases hfield : column.fieldBy plan literal with
    | error e =>
      rw [hfield] at h
      cases h
    | ok field =>
      rw [hfield] at h
      cases h
      exact .inr ⟨plan, field, rfl, rfl, hfield⟩

/-- The policy for defaults changes at most the literal that a field is made with. -/
theorem toFieldIn_ok {field? : Option RecordField}
    (h : (column.toFieldIn table defaults settings).1 = .ok field?) :
    ∃ literal, (column.toField literal settings.mapNumerics).1 = .ok field? := by
  unfold toFieldIn at h
  split at h
  · split at h
    · cases h
    · exact ⟨none, h⟩
  · exact ⟨_, h⟩

/-- Where a column has become a field or none, that is the field that it becomes. -/
theorem fieldIn?_of_ok {field? : Option RecordField}
    (h : (column.toFieldIn table defaults settings).1 = .ok field?) :
    column.fieldIn? table defaults settings = field? := by
  simp only [fieldIn?, h]

/-- A field in a schema has the name, the nullability and the planned type of its column. -/
theorem plan_of_fieldIn? {field : RecordField}
    (h : column.fieldIn? table defaults settings = some field) :
    ∃ plan, ColumnPlan.ofColumn? column settings.mapNumerics = some plan ∧
      field.name = column.fieldName ∧ field.type = plan.fieldType ∧
        field.optional = column.isOptional := by
  cases hbuilt : (column.toFieldIn table defaults settings).1 with
  | error e => simp [fieldIn?, hbuilt] at h
  | ok field? =>
    rw [fieldIn?_of_ok hbuilt] at h
    obtain ⟨literal, hfield⟩ := toFieldIn_ok hbuilt
    obtain ⟨-, hnone⟩ | ⟨plan, field', hplan, hsome, hmade⟩ := toField_ok hfield
    · rw [h] at hnone
      cases hnone
    · rw [h] at hsome
      cases hsome
      exact ⟨plan, hplan, fieldBy_ok hmade⟩

/-- A column is left out of a schema that could be built exactly when it has no plan. -/
theorem fieldIn?_eq_none_iff {field? : Option RecordField}
    (h : (column.toFieldIn table defaults settings).1 = .ok field?) :
    column.fieldIn? table defaults settings = none ↔
      ColumnPlan.ofColumn? column settings.mapNumerics = none := by
  rw [fieldIn?_of_ok h]
  obtain ⟨literal, hfield⟩ := toFieldIn_ok h
  obtain ⟨hplan, rfl⟩ | ⟨plan, field, hplan, rfl, -⟩ := toField_ok hfield
  · simp [hplan]
  · simp [hplan]

/-- A column with a plan has become a field, if the schema could be built. -/
theorem fieldIn?_of_plan {plan : ColumnPlan} {field? : Option RecordField}
    (h : (column.toFieldIn table defaults settings).1 = .ok field?)
    (hplan : ColumnPlan.ofColumn? column settings.mapNumerics = some plan) :
    ∃ field, column.fieldIn? table defaults settings = some field ∧
      field.name = column.fieldName ∧ field.type = plan.fieldType ∧
        field.optional = column.isOptional := by
  cases hfield : column.fieldIn? table defaults settings with
  | none =>
    rw [(fieldIn?_eq_none_iff h).mp hfield] at hplan
    cases hplan
  | some field =>
    obtain ⟨found, hfound, hmade⟩ := plan_of_fieldIn? hfield
    rw [hplan] at hfound
    cases hfound
    exact ⟨field, rfl, hmade⟩

end Column

/-- Whether the type of a column has a counterpart. -/
def Column.isSupported (column : Column) (settings : Settings) : Bool :=
  (ColumnPlan.ofColumn? column settings.mapNumerics).isSome

/--
The fields of a schema are those of the supported ones among some columns, in order, each with the
planned type of its column.
-/
structure Schema.Reflects (schema : Schema) (settings : Settings) (columns : List Column) :
    Prop where
  names : schema.fieldNames =
    (columns.filter (·.isSupported settings)).map Column.fieldName
  field {column : Column} {plan : ColumnPlan} : column ∈ columns →
    ColumnPlan.ofColumn? column settings.mapNumerics = some plan →
      ∃ field ∈ schema.fields, field.name = column.fieldName ∧
        field.type = plan.fieldType ∧ field.optional = column.isOptional

/-- A schema repeats no name if the columns that it reflects do not. -/
theorem Schema.Reflects.nodup {schema : Schema} {settings : Settings} {columns : List Column}
    (h : schema.Reflects settings columns) (hnames : (columns.map Column.fieldName).Nodup) :
    schema.fieldNames.Nodup := by
  rw [h.names]
  exact (List.filter_sublist.map _).nodup hnames

namespace Metadata

variable {σ : Type} {metadata : Metadata σ} {table : String} {defaults : Defaults}
  {settings : Settings}

/-- The fields of a schema are those that the columns read for it become, in order. -/
theorem fields_ok {inv : σ → Prop} {indices : List Nat} {columns : List Column}
    (hread : List.Forall₂ (fun index column => (Column.read metadata index).Answers inv column)
      indices columns)
    {s : σ} (hs : inv s) {fields : List RecordField}
    (h : (metadata.fields table defaults settings indices s).1 = .ok fields) :
    fields = columns.filterMap (Column.fieldIn? table defaults settings) ∧
      ∀ column ∈ columns, (column.toFieldIn table defaults settings).1 =
        .ok (column.fieldIn? table defaults settings) := by
  induction hread generalizing s fields with
  | nil =>
    cases h
    simp
  | @cons index column indices columns hhead _ ih =>
    obtain ⟨hcolumn, hkept⟩ := hhead s hs
    simp only [Metadata.fields, Traced.bind_lift_of_ok hcolumn] at h
    obtain ⟨field?, hfield, h⟩ := Traced.exists_of_bind_ok h
    obtain ⟨more, hmore, h⟩ := Traced.exists_of_bind_ok h
    obtain ⟨rfl, hrest⟩ := ih hkept hmore
    have hbuilt : column.fieldIn? table defaults settings = field? := Column.fieldIn?_of_ok hfield
    cases h
    constructor
    · rw [List.filterMap_cons, hbuilt]
      cases field? <;> rfl
    · intro other hother
      rcases List.mem_cons.mp hother with rfl | hother
      · rw [hbuilt]
        exact hfield
      · exact hrest other hother

/-- Making fields keeps to the states in which the columns are read. -/
theorem fields_keeps {inv : σ → Prop} {indices : List Nat} {columns : List Column}
    (hread : List.Forall₂ (fun index column => (Column.read metadata index).Answers inv column)
      indices columns) : (metadata.fields table defaults settings indices).Keeps inv := by
  induction hread with
  | nil => exact fun _ hs => hs
  | @cons index column indices columns hhead _ ih =>
    refine Traced.Keeps.bind (fun s hs => (hhead s hs).2) fun read => ?_
    refine Traced.Keeps.bind (fun _ hs => hs) fun field? => ?_
    exact Traced.Keeps.bind ih fun more _ hs => hs

/-- Positions that are listed in order meet the elements at these positions. -/
theorem forall₂_range {α : Type} {P : Nat → α → Prop} {l : List α}
    (h : ∀ index a, l[index]? = some a → P index a) :
    List.Forall₂ P (List.range l.length) l := by
  rw [List.forall₂_iff_get]
  refine ⟨List.length_range, fun index hindex hl => ?_⟩
  rw [List.get_eq_getElem, List.getElem_range]
  exact h index _ (List.getElem?_eq_getElem hl)

/-- The schema of a presented result has the fields that its columns become, in order. -/
theorem Presents.schema {inv : σ → Prop} {columns : List Column}
    (hpresents : metadata.Presents inv columns) {s : σ} (hs : inv s) {built : Schema × Nat}
    (h : (metadata.schemaAndDropped table defaults settings s).1 = .ok built) :
    built.1.fields = columns.filterMap (Column.fieldIn? table defaults settings) ∧
      ∀ column ∈ columns, (column.toFieldIn table defaults settings).1 =
        .ok (column.fieldIn? table defaults settings) := by
  obtain ⟨hcount, hkept⟩ := hpresents.count s hs
  unfold schemaAndDropped at h
  rw [Traced.bind_lift_of_ok hcount] at h
  obtain ⟨fields, hfields, h⟩ := Traced.exists_of_bind_ok h
  cases h
  exact fields_ok (forall₂_range fun _ _ hcolumn => (hpresents.describes hcolumn).read) hkept
    hfields

/-- Building a schema keeps to the states in which the metadata presents its columns. -/
theorem Presents.schema_keeps {inv : σ → Prop} {columns : List Column}
    (hpresents : metadata.Presents inv columns) :
    (metadata.schemaAndDropped table defaults settings).Keeps inv := by
  intro s hs
  obtain ⟨hcount, hkept⟩ := hpresents.count s hs
  unfold schemaAndDropped
  rw [Traced.bind_lift_of_ok hcount]
  have hfields : (metadata.fields table defaults settings (List.range columns.length)).Keeps inv :=
    fields_keeps (forall₂_range fun _ _ hcolumn => (hpresents.describes hcolumn).read)
  exact Traced.Keeps.bind hfields (fun _ _ hs => hs) _ hkept

/-- A schema is built together with the number of columns that it leaves out. -/
theorem schemaAndDropped_of_toSchema {s : σ} {schema : Schema}
    (h : (metadata.toSchema table defaults settings s).1 = .ok schema) :
    ∃ dropped, (metadata.schemaAndDropped table defaults settings s).1 = .ok (schema, dropped) := by
  obtain ⟨⟨built, dropped⟩, hbuilt, h⟩ := Traced.exists_of_bind_ok h
  cases h
  exact ⟨dropped, hbuilt⟩

end Metadata

/-- A schema that is built of presented columns reflects them. -/
theorem Metadata.Presents.reflects {σ : Type} {metadata : Metadata σ} {inv : σ → Prop}
    {columns : List Column} (hpresents : metadata.Presents inv columns) {table : String}
    {defaults : Defaults} {settings : Settings} {s : σ} (hs : inv s) {built : Schema × Nat}
    (h : (metadata.schemaAndDropped table defaults settings s).1 = .ok built) :
    built.1.Reflects settings columns := by
  obtain ⟨hfields, hbuilt⟩ := hpresents.schema hs h
  have hname {column : Column} (hcolumn : column ∈ columns) :
      (column.fieldIn? table defaults settings).map (·.name) =
        if column.isSupported settings then some column.fieldName else none := by
    cases hplan : ColumnPlan.ofColumn? column settings.mapNumerics with
    | none =>
      have hnone := (Column.fieldIn?_eq_none_iff (hbuilt column hcolumn)).mpr hplan
      simp [Column.isSupported, hplan, hnone]
    | some plan =>
      obtain ⟨field, hfield, hname, -⟩ := Column.fieldIn?_of_plan (hbuilt column hcolumn) hplan
      simp [Column.isSupported, hplan, hfield, hname]
  constructor
  · unfold Schema.fieldNames
    rw [hfields, List.map_filterMap, List.filterMap_congr fun column => hname]
    clear hfields hbuilt hname hpresents
    induction columns with
    | nil => rfl
    | cons column rest ih =>
      rw [List.filterMap_cons, List.filter_cons, ih]
      split <;> simp_all
  · intro column plan hcolumn hplan
    obtain ⟨field, hfield, hmade⟩ := Column.fieldIn?_of_plan (hbuilt column hcolumn) hplan
    refine ⟨field, ?_, hmade⟩
    rw [hfields]
    exact List.mem_filterMap.mpr ⟨column, hcolumn, hfield⟩

end RowCast

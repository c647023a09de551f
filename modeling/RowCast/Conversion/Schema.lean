import RowCast.Column.Plan
import RowCast.Conversion.CatalogDefault
import RowCast.Conversion.Event
import RowCast.Conversion.Settings
import RowCast.Schema.Basic
import RowCast.Schema.Literal
import RowCast.Source.Row

/-!
# From metadata to schemas

The fields that columns become, and the schema of a result from its metadata and the defaults of its
catalog.
-/

namespace RowCast

/-- The raw defaults of columns, by catalog name. -/
abbrev Defaults := String → Option String

/-- The literal that is the default of a column, if its raw default amounts to one. -/
def Defaults.literal? (defaults : Defaults) (column : Column) : Option String :=
  (defaults column.name).bind (CatalogDefault.toLiteral? column.columnType)

namespace Column

/-- The value of a default literal: the explicit NULL, or a value of the type of the field. -/
def defaultValue (column : Column) (type : FieldType) (literal : String) : Except Error Value :=
  if CatalogDefault.isNull literal then .ok .null
  else (type.readLiteral literal).mapError fun cause =>
    .badDefault column.name literal type.display cause.message

/-- The field that a column becomes by a plan, with a literal as its default. -/
def fieldBy (column : Column) (plan : ColumnPlan) (literal : Option String) :
    Except Error RecordField :=
  match literal with
  | none => .ok ⟨column.fieldName, plan.fieldType, column.isOptional, none⟩
  | some literal =>
    (column.defaultValue plan.fieldType literal).map fun value =>
      ⟨column.fieldName, plan.fieldType, column.isOptional, some value⟩

/--
The field that a column becomes, with a literal as its default. A column whose type has no
counterpart becomes none, and that is reported.
-/
def toField (column : Column) (literal : Option String) (mapNumerics : Bool) :
    Except Error (Option RecordField) × List Event :=
  match ColumnPlan.ofColumn? column mapNumerics with
  | none => (.ok none, [.unsupportedColumn column.name column.columnType])
  | some plan => ((column.fieldBy plan literal).map some, [])

/-- The field that a column of a table becomes, by the policy for defaults that are no literals. -/
def toFieldIn (table : String) (defaults : Defaults) (settings : Settings) (column : Column) :
    Except Error (Option RecordField) × List Event :=
  match column.toField (defaults.literal? column) settings.mapNumerics with
  | (.error (.badDefault name value target message), log) =>
    let cause := Error.badDefault name value target message
    match settings.defaultPolicy with
    | .fail => (.error cause, log)
    | .ignore =>
      let (field, more) := column.toField none settings.mapNumerics
      (field, log ++ .droppedDefault table column.name cause :: more)
  | built => built

end Column

namespace Metadata

variable {σ : Type}

/-- The fields that the columns at the given positions become, in order. -/
def fields (metadata : Metadata σ) (table : String) (defaults : Defaults) (settings : Settings) :
    List Nat → Traced σ (List RecordField)
  | [] => pure []
  | index :: rest => do
    let column ← Column.read metadata index
    let field ← fun s =>
      let (field, log) := column.toFieldIn table defaults settings
      (field, log, s)
    let more ← fields metadata table defaults settings rest
    pure (field.toList ++ more)

/-- The schema of a result and the number of columns left out of it. -/
def schemaAndDropped (metadata : Metadata σ) (table : String) (defaults : Defaults)
    (settings : Settings) : Traced σ (Schema × Nat) := do
  let count ← metadata.columnCount
  let fields ← metadata.fields table defaults settings (List.range count)
  pure (⟨table, fields⟩, count - fields.length)

/-- The schema of a result. -/
def toSchema (metadata : Metadata σ) (table : String) (defaults : Defaults) (settings : Settings) :
    Traced σ Schema := do
  let (schema, _) ← metadata.schemaAndDropped table defaults settings
  pure schema

end Metadata

end RowCast

import RowCast.Column.ColumnType

/-!
# Column descriptors

What a driver says about one column of a result.
-/

namespace RowCast

/-- Whether a column may hold NULL, as far as its driver can tell. -/
inductive Nullability where
  | noNulls
  | nullable
  | unknown
  deriving DecidableEq, Repr

namespace Nullability

/-- The nullability with a given code: zero forbids NULL, one allows it. -/
def ofCode (code : Int32) : Nullability :=
  if code = 0 then noNulls else if code = 1 then nullable else unknown

/-- A column is optional unless its driver rules NULL out. -/
def isOptional : Nullability → Bool
  | noNulls => false
  | _ => true

end Nullability

/-- The name a column has in records: the label that the query gave it, else its catalog name. -/
def fieldName (label name : String) : String :=
  if label.isEmpty then name else label

/-- A snapshot of the metadata of one column. -/
structure Column where
  /-- The name in the catalog. -/
  name : String
  /-- The label that the query gave the column, empty when it gave none. -/
  label : String
  columnType : ColumnType
  nullability : Nullability
  /-- Whether numbers in the column carry a sign. -/
  signed : Bool
  precision : Int32
  scale : Int32
  deriving DecidableEq, Repr

namespace Column

/-- The name of the column in records. -/
def fieldName (column : Column) : String :=
  RowCast.fieldName column.label column.name

/-- Whether the field made of the column may be null. -/
def isOptional (column : Column) : Bool :=
  column.nullability.isOptional

end Column

end RowCast

import RowCast.Source.Row

/-!
# Lifted sources

A data source whose states are part of larger ones: every call on the larger states is made of the
call on the source. What is done besides is told once for each kind of call, those that open handles
and those on handles apart from the rest.
-/

namespace RowCast

/-- The calls on a data source and on its handles. -/
inductive Call where
  | columnCount
  | columnName
  | columnLabel
  | columnType
  | nullability
  | isSigned
  | precision
  | scale
  | getBool
  | getInt8
  | getInt16
  | getInt32
  | getInt64
  | getFloat32
  | getFloat64
  | getDecimal
  | getString
  | getNationalString
  | getBytes
  | getDate
  | getTime
  | getTimestamp
  | getUrl
  | openBlob
  | openClob
  | openNationalClob
  | openXml
  | advance
  | length
  | read
  | free
  deriving DecidableEq, Repr

/-- A call on a handle, with what it answered where that counts. -/
inductive HandleCall where
  | length (answer : Except Error Nat)
  | read (offset count : Nat)
  | text
  | free (answer : Except Error Unit)

/--
How calls on a source over `σ` are performed over `τ`, where a handle of `η` is kept as one of
`wrap η`.
-/
structure Lifting (σ τ : Type) (wrap : Type → Type) where
  /-- Perform a call on a column that opens no handle. -/
  plain {α : Type} (call : Call) (index : Nat) (step : Step σ α) : Step τ α
  /-- Perform a call on a column that may open a handle. -/
  opening {η : Type} (call : Call) (index : Nat) (step : Step σ (Option η)) :
    Step τ (Option (wrap η))
  /-- Perform a call on a handle; `note` tells of the call by what it answers. -/
  calling {η α : Type} (call : Call) (note : Except Error α → HandleCall) (step : Step (η × σ) α) :
    Step (wrap η × τ) α
  /-- Ask the null indicator of the source. -/
  asking (ask : σ → Bool × σ) : τ → Bool × τ
  /-- Move to the next row. -/
  moving (step : Step σ Bool) : Step τ Bool := plain .advance 0 step

namespace Lifting

variable {σ τ η κ β χ ξ : Type} {wrap : Type → Type}

/-- Lifted metadata. -/
def metadata (l : Lifting σ τ wrap) (m : Metadata σ) : Metadata τ where
  columnCount := l.plain .columnCount 0 m.columnCount
  columnName index := l.plain .columnName index (m.columnName index)
  columnLabel index := l.plain .columnLabel index (m.columnLabel index)
  columnType index := l.plain .columnType index (m.columnType index)
  nullability index := l.plain .nullability index (m.nullability index)
  isSigned index := l.plain .isSigned index (m.isSigned index)
  precision index := l.plain .precision index (m.precision index)
  scale index := l.plain .scale index (m.scale index)

/-- Lifted large objects. -/
def largeObject (l : Lifting σ τ wrap) (object : LargeObject σ η κ) :
    LargeObject τ (wrap η) κ where
  length := l.calling .length .length object.length
  read offset count := l.calling .read (fun _ => .read offset count) (object.read offset count)
  free := l.calling .free .free object.free

/-- Lifted documents. -/
def xmlDocument (l : Lifting σ τ wrap) (document : XmlDocument σ η) :
    XmlDocument τ (wrap η) where
  text := l.calling .read (fun _ => .text) document.text
  free := l.calling .free .free document.free

/-- A lifted row. -/
def rowSource (l : Lifting σ τ wrap) (r : RowSource σ β χ ξ) :
    RowSource τ (wrap β) (wrap χ) (wrap ξ) where
  toMetadata := l.metadata r.toMetadata
  wasNull := l.asking r.wasNull
  getBool index := l.plain .getBool index (r.getBool index)
  getInt8 index := l.plain .getInt8 index (r.getInt8 index)
  getInt16 index := l.plain .getInt16 index (r.getInt16 index)
  getInt32 index := l.plain .getInt32 index (r.getInt32 index)
  getInt64 index := l.plain .getInt64 index (r.getInt64 index)
  getFloat32 index := l.plain .getFloat32 index (r.getFloat32 index)
  getFloat64 index := l.plain .getFloat64 index (r.getFloat64 index)
  getDecimal index scale := l.plain .getDecimal index (r.getDecimal index scale)
  getString index := l.plain .getString index (r.getString index)
  getNationalString index := l.plain .getNationalString index (r.getNationalString index)
  getBytes index := l.plain .getBytes index (r.getBytes index)
  getDate index := l.plain .getDate index (r.getDate index)
  getTime index := l.plain .getTime index (r.getTime index)
  getTimestamp index := l.plain .getTimestamp index (r.getTimestamp index)
  getUrl index := l.plain .getUrl index (r.getUrl index)
  openBlob index := l.opening .openBlob index (r.openBlob index)
  openClob index := l.opening .openClob index (r.openClob index)
  openNationalClob index := l.opening .openNationalClob index (r.openNationalClob index)
  openXml index := l.opening .openXml index (r.openXml index)
  blob := l.largeObject r.blob
  clob := l.largeObject r.clob
  xml := l.xmlDocument r.xml

/-- A lifted cursor. -/
def cursor (l : Lifting σ τ wrap) (c : Cursor σ β χ ξ) :
    Cursor τ (wrap β) (wrap χ) (wrap ξ) where
  row := l.rowSource c.row
  advance := l.moving c.advance

end Lifting

end RowCast

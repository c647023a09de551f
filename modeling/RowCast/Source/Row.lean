import RowCast.Calendar.Timestamp
import RowCast.Column.Descriptor
import RowCast.Decimal.Basic
import RowCast.Binary.Number
import RowCast.Source.Step
import RowCast.Url.Basic

/-!
# Data sources

What a driver offers: metadata of the columns of a result, typed reads of the current row, handles
of large objects, and a cursor over the rows. Nothing is assumed about how a driver answers. Columns
are counted from zero.
-/

namespace RowCast

/-- The metadata of a result, over driver states of `σ`. -/
structure Metadata (σ : Type) where
  columnCount : Step σ Nat
  columnName (index : Nat) : Step σ String
  /-- The label that the query gave a column, empty when it gave none. -/
  columnLabel (index : Nat) : Step σ String
  /-- The vendor type code of a column. -/
  columnType (index : Nat) : Step σ Int32
  nullability (index : Nat) : Step σ Nullability
  isSigned (index : Nat) : Step σ Bool
  precision (index : Nat) : Step σ Int32
  scale (index : Nat) : Step σ Int32

/-- What can be done with a handle of `η` to a large object with contents of `κ`. -/
structure LargeObject (σ η κ : Type) where
  /-- The length in bytes or characters, as the driver reports it. -/
  length : Step (η × σ) Nat
  /-- Read at most `count` bytes or characters from position `offset` on. -/
  read (offset count : Nat) : Step (η × σ) κ
  /-- Release what the driver holds for the handle. -/
  free : Step (η × σ) Unit

/-- What can be done with a handle of `η` to an XML document. -/
structure XmlDocument (σ η : Type) where
  /-- The document as text. -/
  text : Step (η × σ) String
  /-- Release what the driver holds for the document. -/
  free : Step (η × σ) Unit

/--
Reads of the current row. A read of a number or truth value answers zero or false for NULL; only
`wasNull`, asked after the read, tells.
-/
structure RowSource (σ β χ ξ : Type) extends Metadata σ where
  /-- Whether the last value read was NULL. -/
  wasNull : σ → Bool × σ
  getBool (index : Nat) : Step σ Bool
  getInt8 (index : Nat) : Step σ Int8
  getInt16 (index : Nat) : Step σ Int16
  getInt32 (index : Nat) : Step σ Int32
  getInt64 (index : Nat) : Step σ Int64
  getFloat32 (index : Nat) : Step σ Binary32
  getFloat64 (index : Nat) : Step σ Binary64
  /-- A decimal rounded to a number of fractional digits. -/
  getDecimal (index : Nat) (scale : Int32) : Step σ (Option Decimal)
  getString (index : Nat) : Step σ (Option String)
  getNationalString (index : Nat) : Step σ (Option String)
  getBytes (index : Nat) : Step σ (Option (List UInt8))
  getDate (index : Nat) : Step σ (Option Date)
  getTime (index : Nat) : Step σ (Option TimeOfDay)
  getTimestamp (index : Nat) : Step σ (Option Timestamp)
  getUrl (index : Nat) : Step σ (Option Url)
  openBlob (index : Nat) : Step σ (Option β)
  openClob (index : Nat) : Step σ (Option χ)
  openNationalClob (index : Nat) : Step σ (Option χ)
  openXml (index : Nat) : Step σ (Option ξ)
  blob : LargeObject σ β (List UInt8)
  clob : LargeObject σ χ String
  xml : XmlDocument σ ξ

/-- A cursor that moves over the rows of a result, forward only. -/
structure Cursor (σ β χ ξ : Type) where
  row : RowSource σ β χ ξ
  /-- Move to the next row; false once there is none. -/
  advance : Step σ Bool

/-- Take a snapshot of the metadata of a column. -/
def Column.read {σ : Type} (metadata : Metadata σ) (index : Nat) : Step σ Column := do
  let name ← metadata.columnName index
  let label ← metadata.columnLabel index
  let code ← metadata.columnType index
  let nullability ← metadata.nullability index
  let signed ← metadata.isSigned index
  let precision ← metadata.precision index
  let scale ← metadata.scale index
  pure ⟨name, label, .ofCode code, nullability, signed, precision, scale⟩

end RowCast

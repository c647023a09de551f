/-!
# Statistics

Running counts of what a converter has done, modulo `2 ^ 64`.
-/

namespace RowCast

/-- The counts of a converter. -/
structure Stats where
  schemasBuilt : UInt64
  /-- Columns left out of schemas. -/
  columnsDropped : UInt64
  recordsConverted : UInt64
  /-- Fields left empty in records. -/
  fieldsUnset : UInt64
  deriving DecidableEq, Repr

namespace Stats

/-- The counts of a converter that has done nothing. -/
def zero : Stats := ⟨0, 0, 0, 0⟩

/-- Count a schema and the columns left out of it. -/
def countSchema (stats : Stats) (dropped : UInt64) : Stats :=
  { stats with
    schemasBuilt := stats.schemasBuilt + 1
    columnsDropped := stats.columnsDropped + dropped }

/-- Count a record and the fields left empty in it. -/
def countRecord (stats : Stats) (unset : UInt64) : Stats :=
  { stats with
    recordsConverted := stats.recordsConverted + 1
    fieldsUnset := stats.fieldsUnset + unset }

end Stats

end RowCast

import RowCast.Conversion.Row
import RowCast.Conversion.Schema
import RowCast.Conversion.Stats
import RowCast.Source.Faulty

/-!
# Converters

A converter holds allowed settings and its statistics. It builds the schema of a result once and
then converts its rows, one at a time or all that are left.
-/

namespace RowCast

/-- Settings with running statistics. -/
structure Converter where
  settings : Settings
  stats : Stats
  deriving DecidableEq, Repr

namespace Converter

/-- A converter with the given settings, if they are allowed. -/
def ofSettings (settings : Settings) : Except Error Converter :=
  settings.check.map fun () => ⟨settings, .zero⟩

/-- A converter that has built a schema and left columns out of it. -/
def countSchema (c : Converter) (dropped : Nat) : Converter :=
  { c with stats := c.stats.countSchema (UInt64.ofNat dropped) }

/-- A converter that has made a record, which may have empty fields. -/
def countRecord (c : Converter) (record : Record) : Converter :=
  { c with stats := c.stats.countRecord (UInt64.ofNat (record.schema.size - record.setCount)) }

/-- The outcome of a computation over a converter and a source. -/
abbrev Outcome (σ α : Type) := Except Error α × List Event × Converter × σ

section

variable {σ β χ ξ : Type}

/-- Build the schema of a result, count it and report it. -/
def schemaOf (metadata : Metadata σ) (table : String) (defaults : Defaults) :
    Traced (Converter × σ) Schema := fun (c, s) =>
  match metadata.schemaAndDropped table defaults c.settings s with
  | (.ok (schema, dropped), log, s) =>
    (.ok schema, log ++ [.builtSchema table schema.size dropped], c.countSchema dropped, s)
  | (.error e, log, s) => (.error e, log, c, s)

/-- Convert the current row and count the record. -/
def recordOf (row : RowSource σ β χ ξ) (schema : Schema) : Traced (Converter × σ) Record :=
  fun (c, s) =>
    match row.toRecord schema c.settings s with
    | (.ok record, log, s) => (.ok record, log, c.countRecord record, s)
    | (.error e, log, s) => (.error e, log, c, s)

/--
Convert every row that is left, with `fuel` moves of the cursor at most; nothing if they do not
suffice. The first failure ends the conversion and discards its records.
-/
def recordsOf? (cursor : Cursor σ β χ ξ) (schema : Schema) :
    Nat → Converter × σ → Option (Outcome σ (List Record))
  | 0, _ => none
  | fuel + 1, (c, s) =>
    match cursor.advance s with
    | (.error e, s) => some (.error e, [], c, s)
    | (.ok false, s) => some (.ok [], [], c, s)
    | (.ok true, s) =>
      match recordOf cursor.row schema (c, s) with
      | (.error e, log, next) => some (.error e, log, next)
      | (.ok record, log, next) =>
        (recordsOf? cursor schema fuel next).map fun (records, more, last) =>
          (records.map (record :: ·), log ++ more, last)

end

/--
Convert every row that is left of a table. The rows that remain bound the moves of its cursor.
-/
def recordsOfTable (schema : Schema) : Traced (Converter × ResultTable) (List Record) := fun s =>
  (recordsOf? ResultTable.cursor schema (s.2.remaining + 1) s).getD (.ok [], [], s)

/-- Convert every row that is left of a table with faults, in the same way. -/
def recordsOfFaulty (schema : Schema) : Traced (Converter × Faulty ResultTable) (List Record) :=
  fun s =>
    (recordsOf? (Faulty.cursor ResultTable.cursor) schema (s.2.source.remaining + 1) s).getD
      (.ok [], [], s)

end Converter

end RowCast

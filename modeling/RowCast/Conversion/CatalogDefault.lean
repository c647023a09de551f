import RowCast.Column.ColumnType
import RowCast.Text.CaseFold

/-!
# Catalog defaults

Default expressions as catalogs give them, reduced to literals: markers of automatic numbering go,
and the current time becomes a fixed one.
-/

namespace RowCast.CatalogDefault

/-- The mark at the front of a default that numbers rows by itself. -/
def autoincrementMark : List Char := "autoincrement".toList

/-- The mark of a default that takes the time of insertion. -/
def currentTimeMark : List Char := "current_timestamp".toList

/-- The literal that stands for the current time in a column of the type. -/
def placeholder? : ColumnType → Option String
  | .timestamp => some "2000-01-01 00:00:00"
  | .date => some "2000-01-01"
  | .time => some "00:00:00"
  | _ => none

/-- The literal that a raw default of a column amounts to, if it amounts to one. -/
def toLiteral? (columnType : ColumnType) (raw : String) : Option String :=
  let lower := Text.lower raw.toList
  if autoincrementMark.isPrefixOf lower then none
  else if Text.occursIn currentTimeMark lower then some ((placeholder? columnType).getD raw)
  else some raw

/-- Whether a literal is the explicit NULL, in any case of letters. -/
def isNull (literal : String) : Bool :=
  Text.sameIgnoringCase literal.toList ['n', 'u', 'l', 'l']

end RowCast.CatalogDefault

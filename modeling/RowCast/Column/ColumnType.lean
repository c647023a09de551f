import RowCast.Text.Digits

/-!
# Column types

The vendor type codes that drivers report for columns, and their standard names.
-/

namespace RowCast

/-- A column type as its driver reports it; codes outside the standard set stay `vendor` codes. -/
inductive ColumnType where
  | bit
  | tinyInt
  | smallInt
  | integer
  | bigInt
  | float
  | real
  | double
  | numeric
  | decimal
  | char
  | varChar
  | longVarChar
  | date
  | time
  | timestamp
  | binary
  | varBinary
  | longVarBinary
  | null
  | other
  | javaObject
  | distinct
  | struct
  | array
  | blob
  | clob
  | ref
  | dataLink
  | boolean
  | rowId
  | nChar
  | nVarChar
  | longNVarChar
  | nClob
  | sqlXml
  | vendor (code : Int32)
  deriving DecidableEq, Repr

namespace ColumnType

/-- The standard types, each with its code. -/
def standard : List (Int32 × ColumnType) :=
  [(-7, bit), (-6, tinyInt), (5, smallInt), (4, integer), (-5, bigInt), (6, float), (7, real),
   (8, double), (2, numeric), (3, decimal), (1, char), (12, varChar), (-1, longVarChar),
   (91, date), (92, time), (93, timestamp), (-2, binary), (-3, varBinary), (-4, longVarBinary),
   (0, null), (1111, other), (2000, javaObject), (2001, distinct), (2002, struct), (2003, array),
   (2004, blob), (2005, clob), (2006, ref), (70, dataLink), (16, boolean), (-8, rowId),
   (-15, nChar), (-9, nVarChar), (-16, longNVarChar), (2011, nClob), (2009, sqlXml)]

/-- The type with a given code. -/
def ofCode (code : Int32) : ColumnType :=
  (standard.lookup code).getD (vendor code)

/-- The code of a type. -/
def code : ColumnType → Int32
  | bit => -7
  | tinyInt => -6
  | smallInt => 5
  | integer => 4
  | bigInt => -5
  | float => 6
  | real => 7
  | double => 8
  | numeric => 2
  | decimal => 3
  | char => 1
  | varChar => 12
  | longVarChar => -1
  | date => 91
  | time => 92
  | timestamp => 93
  | binary => -2
  | varBinary => -3
  | longVarBinary => -4
  | null => 0
  | other => 1111
  | javaObject => 2000
  | distinct => 2001
  | struct => 2002
  | array => 2003
  | blob => 2004
  | clob => 2005
  | ref => 2006
  | dataLink => 70
  | boolean => 16
  | rowId => -8
  | nChar => -15
  | nVarChar => -9
  | longNVarChar => -16
  | nClob => 2011
  | sqlXml => 2009
  | vendor code => code

/-- The standard name of a type. -/
def name : ColumnType → String
  | bit => "BIT"
  | tinyInt => "TINYINT"
  | smallInt => "SMALLINT"
  | integer => "INTEGER"
  | bigInt => "BIGINT"
  | float => "FLOAT"
  | real => "REAL"
  | double => "DOUBLE"
  | numeric => "NUMERIC"
  | decimal => "DECIMAL"
  | char => "CHAR"
  | varChar => "VARCHAR"
  | longVarChar => "LONGVARCHAR"
  | date => "DATE"
  | time => "TIME"
  | timestamp => "TIMESTAMP"
  | binary => "BINARY"
  | varBinary => "VARBINARY"
  | longVarBinary => "LONGVARBINARY"
  | null => "NULL"
  | other => "OTHER"
  | javaObject => "JAVA_OBJECT"
  | distinct => "DISTINCT"
  | struct => "STRUCT"
  | array => "ARRAY"
  | blob => "BLOB"
  | clob => "CLOB"
  | ref => "REF"
  | dataLink => "DATALINK"
  | boolean => "BOOLEAN"
  | rowId => "ROWID"
  | nChar => "NCHAR"
  | nVarChar => "NVARCHAR"
  | longNVarChar => "LONGNVARCHAR"
  | nClob => "NCLOB"
  | sqlXml => "SQLXML"
  | vendor _ => "VENDOR"

/-- The name of a type as diagnostics show it, with the code of a vendor type in parentheses. -/
def display : ColumnType → String
  | vendor code => "VENDOR(" ++ String.ofList (Text.intText code.toInt) ++ ")"
  | t => t.name

/-- Whether values of the type are dates, times of day or instants. -/
def isTemporal : ColumnType → Bool
  | date | time | timestamp => true
  | _ => false

/-- Whether the code of the type is outside the standard set. -/
def isVendor : ColumnType → Bool
  | vendor _ => true
  | _ => false

/-- What a table of types by code finds for a code has that code. -/
theorem code_of_lookup {table : List (Int32 × ColumnType)} (h : ∀ p ∈ table, p.2.code = p.1)
    {c : Int32} {t : ColumnType} (found : table.lookup c = some t) : t.code = c := by
  induction table with
  | nil => cases found
  | cons p rest ih =>
    rw [List.lookup_cons] at found
    split at found
    · cases found
      simp_all
    · exact ih (fun q hq => h q (List.mem_cons_of_mem p hq)) found

/-- Every code classifies to a type with that code. -/
theorem code_ofCode (c : Int32) : (ofCode c).code = c := by
  unfold ofCode
  cases found : standard.lookup c with
  | none => rfl
  | some t => exact code_of_lookup (by decide) found

end ColumnType

end RowCast

import RowCast.Column.ColumnType
import RowCast.Text.Quoted

/-!
# Errors

Why a conversion step fails, how far such a failure reaches, and its message.
-/

namespace RowCast

/-- The classes of errors. -/
inductive ErrorClass where
  | unsupportedType
  | largeObject
  | driverAccess
  | defaultValue
  | schema
  | configuration
  deriving DecidableEq, Repr

namespace ErrorClass

/-- Whether errors of the class concern one field of one record and nothing else. -/
def isFieldScoped : ErrorClass → Bool
  | largeObject | driverAccess | schema => true
  | _ => false

/-- The name of the class in answers. -/
def display : ErrorClass → String
  | unsupportedType => "unsupported_type"
  | largeObject => "large_object"
  | driverAccess => "driver_access"
  | defaultValue => "default_value"
  | schema => "schema"
  | configuration => "configuration"

end ErrorClass

/-- A failed conversion step. -/
inductive Error where
  /-- No logical type answers to a vendor type code. -/
  | unsupportedType (code : Int32)
  /-- A large object is longer than the configured limit. -/
  | oversizedLargeObject (length max : Nat)
  /-- The data source refused a read; `source` is the text of an underlying error. -/
  | driverAccess (message : String) (source : Option String)
  /-- The default of a column is no literal of its type. -/
  | badDefault (column value target message : String)
  /-- A value does not belong into a field. -/
  | fieldMismatch (field message : String)
  /-- A setting is not allowed. -/
  | configuration (message : String)
  deriving DecidableEq, Repr

namespace Error

/-- A failure of the data source without an underlying error. -/
def driver (message : String) : Error :=
  driverAccess message none

/-- The class of an error. -/
def errorClass : Error → ErrorClass
  | unsupportedType _ => .unsupportedType
  | oversizedLargeObject .. => .largeObject
  | driverAccess .. => .driverAccess
  | badDefault .. => .defaultValue
  | fieldMismatch .. => .schema
  | configuration _ => .configuration

/-- Whether an error concerns one field of one record and nothing else. -/
def isFieldScoped (e : Error) : Bool :=
  e.errorClass.isFieldScoped

/-- The text of the underlying error, if there is one. -/
def source? : Error → Option String
  | driverAccess _ source => source
  | _ => none

/-- The text of an error. -/
def message : Error → String
  | unsupportedType code =>
    "unsupported type: vendor type code " ++ String.ofList (Text.intText code.toInt)
  | oversizedLargeObject length max =>
    "large object of " ++ String.ofList (Text.natText length) ++ " units exceeds the maximum of " ++
      String.ofList (Text.natText max)
  | driverAccess message _ => "driver access error: " ++ message
  | badDefault column value target message =>
    "invalid default " ++ String.ofList (Text.quoted value.toList) ++ " for column " ++ column ++
      " (" ++ target ++ "): " ++ message
  | fieldMismatch field message => "field " ++ field ++ ": " ++ message
  | configuration message => "configuration error: " ++ message

end Error

end RowCast

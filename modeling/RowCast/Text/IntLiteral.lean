import RowCast.Text.Digits

/-!
# Integer literals

Decimal texts of integers between two bounds: an optional sign and at least one ASCII digit.
-/

namespace RowCast

/-- Why a text is no integer literal. -/
inductive IntLiteralError where
  | empty
  | invalidDigit
  | tooLarge
  | tooSmall
  deriving DecidableEq, Repr

namespace IntLiteralError

/-- The text of an error in an integer. -/
def message : IntLiteralError → String
  | empty => "cannot parse integer from empty string"
  | invalidDigit => "invalid digit found in string"
  | tooLarge => "number too large to fit in target type"
  | tooSmall => "number too small to fit in target type"

end IntLiteralError

namespace IntLiteral

/--
Read digits from left to right; the first one that is wrong or leaves the bounds is the error.
-/
def readDigits (least greatest : Int) (negative : Bool) (acc : Int) :
    List Char → Except IntLiteralError Int
  | [] => .ok acc
  | c :: rest =>
    match Text.digitValue? c with
    | none => .error .invalidDigit
    | some digit =>
      let next := if negative then acc * 10 - digit else acc * 10 + digit
      if next < least then .error .tooSmall
      else if greatest < next then .error .tooLarge
      else readDigits least greatest negative next rest

/-- Read digits of which there must be one. -/
def readSigned (least greatest : Int) (negative : Bool) : List Char → Except IntLiteralError Int
  | [] => .error .invalidDigit
  | digits => readDigits least greatest negative 0 digits

/-- Read an integer literal between two bounds. -/
def read (least greatest : Int) : List Char → Except IntLiteralError Int
  | [] => .error .empty
  | '-' :: digits => readSigned least greatest true digits
  | '+' :: digits => readSigned least greatest false digits
  | digits => readDigits least greatest false 0 digits

end IntLiteral

end RowCast

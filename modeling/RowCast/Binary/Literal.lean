import RowCast.Binary.Number
import RowCast.Text.CaseFold

/-!
# Float literals

Texts of floating point numbers and the correctly rounded numbers that they write.
-/

namespace RowCast.FloatLiteral

open scoped CorePowers

/-- The unsigned part of a literal: a word, or digits with a point and an exponent of ten. -/
inductive Body where
  | infinity
  | notANumber
  | digits (significand : Nat) (exponent : Int)
  deriving DecidableEq

/-- Read `[+-]digits` as an exponent. -/
def readExponent (s : List Char) : Option Int :=
  let (negative, digits) := match s with
    | '-' :: rest => (true, rest)
    | '+' :: rest => (false, rest)
    | s => (false, s)
  if digits ≠ [] ∧ digits.all Text.isDigit then
    let n : Int := Text.digitsValue 0 digits
    some (if negative then -n else n)
  else none

/-- Read digits with at most one point among them, at least one digit, and an optional exponent. -/
def readNumber (s : List Char) : Option Body :=
  let (whole, afterWhole) := Text.spanDigits s
  let (fraction, rest) := match afterWhole with
    | '.' :: more => Text.spanDigits more
    | more => ([], more)
  if whole ++ fraction = [] then none else
    let significand := Text.digitsValue 0 (whole ++ fraction)
    match rest with
    | [] => some (.digits significand (-fraction.length))
    | c :: more =>
      if c = 'e' ∨ c = 'E' then
        (readExponent more).map fun e => .digits significand (e - fraction.length)
      else none

/-- Read the literal behind its sign. -/
def readBody (s : List Char) : Option Body :=
  let word := String.ofList (Text.lower s)
  if word = "inf" ∨ word = "infinity" then some .infinity
  else if word = "nan" then some .notANumber
  else readNumber s

/-- Read a literal: its sign, then its body. -/
def read : List Char → Option (Bool × Body)
  | '-' :: rest => (readBody rest).map (true, ·)
  | '+' :: rest => (readBody rest).map (false, ·)
  | s => (readBody s).map (false, ·)

/--
The pattern without sign of the number nearest to `significand * 10 ^ exponent`. Exponents far
outside the range of the format give infinity or zero at once.
-/
def scientific (f : FloatFormat) (significand : Nat) (exponent : Int) : Nat :=
  let decimalExponent : Int := exponent + (Text.natText significand).length
  if significand = 0 then 0
  else if 400 < decimalExponent then f.infinity
  else if decimalExponent < -400 then 0
  else f.roundRatio (significand * 10 ^ exponent.toNat) (10 ^ (-exponent).toNat)

/-- The pattern of the number that a literal writes. -/
def toBits (f : FloatFormat) : Bool × Body → Nat
  | (_, .notANumber) => f.notANumber
  | (negative, .infinity) => f.withSign negative f.infinity
  | (negative, .digits significand exponent) =>
    f.withSign negative (scientific f significand exponent)

end RowCast.FloatLiteral

namespace RowCast

/-- The 32-bit number that a literal writes. -/
def Binary32.ofLiteral? (s : List Char) : Option Binary32 :=
  (FloatLiteral.read s).map fun x => .ofNat (FloatLiteral.toBits .single x)

/-- The 64-bit number that a literal writes. -/
def Binary64.ofLiteral? (s : List Char) : Option Binary64 :=
  (FloatLiteral.read s).map fun x => .ofNat (FloatLiteral.toBits .double x)

end RowCast

import RowCast.Decimal.Rescale

/-!
# Reading decimals

Decimals read from plain text such as `-12.50` and from scientific text such as `1.5e-3`. Text with
more digits behind the point than a decimal holds is rounded by the first digit that has no room;
the digits behind that one do not matter.
-/

namespace RowCast.Decimal

open scoped CorePowers

/-- The decimal with a sign, mantissa and scale, if it has one; zero takes the positive sign. -/
def ofSigned? (negative : Bool) (mantissa scale : Nat) : Option Decimal :=
  ofMantissa? (if negative then -mantissa else mantissa) scale

/-- Round the digits read so far by the digit that follows them, a half away from zero. -/
def roundBy (negative : Bool) (mantissa scale digit : Nat) : Option Decimal :=
  if digit < 5 then ofSigned? negative mantissa scale
  else if mantissa + 1 < 2 ^ (96 : Nat) then ofSigned? negative (mantissa + 1) scale
  else if scale = 0 then none
  else ofSigned? negative ((mantissa + 5) / 10) (scale - 1)

/-- Whether a text holds nothing but digits and underscores. -/
def isDigitTail (s : List Char) : Bool :=
  s.all fun c => Text.isDigit c || c == '_'

/--
Round the digits read so far by what follows them. An underscore there counts as a zero, and digits
and underscores may follow it.
-/
def finishRounded (negative : Bool) (mantissa scale : Nat) (next : Char) (rest : List Char) :
    Option Decimal :=
  if isDigitTail rest then
    (if next = '_' then some 0 else Text.digitValue? next).bind
      (roundBy negative mantissa scale)
  else none

/-- How far the reading of a plain decimal has come. -/
structure Reading where
  mantissa : Nat
  scale : Nat
  /-- The point has been read. -/
  point : Bool
  /-- A digit has been read. -/
  digits : Bool
  /-- The mantissa has grown past the 64-bit words that short numbers are read in. -/
  wide : Bool

/-- From this mantissa on a further digit may not fit a 64-bit word. -/
def wideFrom : Nat :=
  1844674407370954906

/-- Whether no further digit behind the point fits. -/
def Reading.isFull (r : Reading) : Bool :=
  r.point && decide (28 ≤ r.scale)

/-- The reading after one more digit. -/
def Reading.push (r : Reading) (digit : Nat) : Reading :=
  let mantissa := r.mantissa * 10 + digit
  let scale := if r.point then r.scale + 1 else 0
  let wide := r.wide || (decide (wideFrom ≤ mantissa) && !(r.point && decide (28 ≤ scale)))
  ⟨mantissa, scale, r.point, true, wide⟩

/-- Read the rest of a plain decimal, after its sign. -/
def readFrom (negative : Bool) (r : Reading) : List Char → Option Decimal
  | [] => if r.digits then ofSigned? negative r.mantissa r.scale else none
  | c :: rest =>
    if r.isFull then
      if r.wide then
        match (c :: rest).dropWhile (· == '_') with
        | [] => ofSigned? negative r.mantissa r.scale
        | next :: more => finishRounded negative r.mantissa r.scale next more
      else finishRounded negative r.mantissa r.scale c rest
    else match Text.digitValue? c with
    | some digit =>
      if r.mantissa * 10 + digit < 2 ^ (96 : Nat) then readFrom negative (r.push digit) rest
      else if r.point then finishRounded negative r.mantissa r.scale c rest
      else none
    | none =>
      if c = '.' ∧ r.point = false then readFrom negative { r with point := true } rest
      else if c = '_' ∧ r.digits = true then readFrom negative r rest
      else none

/-- The state of a reading before its first character. -/
def Reading.start : Reading :=
  ⟨0, 0, false, false, false⟩

/--
Read a plain decimal: an optional sign, digits with at most one point, underscores after a digit.
-/
def readPlain : List Char → Option Decimal
  | '-' :: rest => readFrom true .start rest
  | '+' :: rest => readFrom false .start rest
  | s => readFrom false .start s

/-- Read an exponent without a minus sign, below `2 ^ 32`. -/
def readExponent (s : List Char) : Option Nat :=
  let digits := match s with
    | '+' :: rest => rest
    | s => s
  if digits ≠ [] ∧ digits.all Text.isDigit ∧ Text.digitsValue 0 digits < 2 ^ (32 : Nat) then
    some (Text.digitsValue 0 digits)
  else none

/-- The decimal times ten to the `exponent`, by a smaller scale as long as there is one. -/
def timesPowerOfTen (d : Decimal) (exponent : Nat) : Option Decimal :=
  if exponent ≤ d.scale then ofSigned? d.negative d.mantissa (d.scale - exponent)
  else if exponent ≤ 28 then ofSigned? d.negative (d.mantissa * 10 ^ (exponent - d.scale)) 0
  else none

/--
The decimal divided by ten to the `exponent`, at most 28: by a greater scale as long as there is
one, else rounded to 28 fractional digits with a half away from zero.
-/
def overPowerOfTen (d : Decimal) (exponent : Nat) : Option Decimal :=
  if 28 < exponent then none
  else if d.scale + exponent ≤ 28 then ofSigned? d.negative d.mantissa (d.scale + exponent)
  else
    some { d.rescale (28 - exponent) (Nat.sub_le 28 exponent) with
      scale := 28
      scale_le := Nat.le_refl 28 }

/-- Read a plain decimal with an exponent behind `e` or `E`. -/
def readScientific (s : List Char) : Option Decimal :=
  let isMark := fun c => c == 'e' || c == 'E'
  match s.dropWhile (fun c => !isMark c) with
  | [] => none
  | _ :: exponent =>
    (readPlain (s.takeWhile fun c => !isMark c)).bind fun base =>
      match exponent with
      | '-' :: digits => (readExponent digits).bind base.overPowerOfTen
      | digits => (readExponent digits).bind base.timesPowerOfTen

/-- Read a decimal from plain text or, failing that, from scientific text. -/
def ofText? (s : List Char) : Option Decimal :=
  (readPlain s).or (readScientific s)

end RowCast.Decimal

import RowCast.Json.Tree
import RowCast.Text.Digits

/-!
# JSON numbers

Numbers of JSON text. An integer within 64 bits stays an integer. Any other number is computed in
64-bit floating point, from the leading digits that fit a 64-bit word and one power of ten, so it
may miss the nearest value by its last bit.
-/

namespace RowCast.Json

open scoped CorePowers

/-- The greatest unsigned word of 64 bits. -/
def wordMax : Nat := 2 ^ (64 : Nat) - 1

/-- The lexical parts of a number. -/
structure NumberText where
  negative : Bool
  whole : List Char
  /-- The digits behind the point, if there is one. -/
  fraction : Option (List Char)
  /-- The exponent with its minus sign, if there is one. -/
  exponent : Option (Bool × List Char)

/-- Read an optional exponent; at least one digit must follow the mark. -/
def readExponent : List Char → Option (Option (Bool × List Char) × List Char)
  | c :: rest =>
    if c = 'e' ∨ c = 'E' then
      let (negative, more) := match rest with
        | '-' :: more => (true, more)
        | '+' :: more => (false, more)
        | more => (false, more)
      let (digits, rest) := Text.spanDigits more
      if digits = [] then none else some (some (negative, digits), rest)
    else some (none, c :: rest)
  | [] => some (none, [])

/-- Read an optional fraction; at least one digit must follow the point. -/
def readFraction : List Char → Option (Option (List Char) × List Char)
  | '.' :: rest =>
    let (digits, rest) := Text.spanDigits rest
    if digits = [] then none else some (some digits, rest)
  | rest => some (none, rest)

/-- Split a number off the front of a text; its whole part has no needless zero in front. -/
def readNumberText (s : List Char) : Option (NumberText × List Char) := do
  let (negative, s) := match s with
    | '-' :: rest => (true, rest)
    | s => (false, s)
  let (whole, rest) := Text.spanDigits s
  if whole = [] ∨ (whole.head? = some '0' ∧ 1 < whole.length) then none else
    let (fraction, rest) ← readFraction rest
    let (exponent, rest) ← readExponent rest
    some (⟨negative, whole, fraction, exponent⟩, rest)

/-- Append digits to a word while it fits; also gives the digits that are left. -/
def growWord (word : Nat) : List Char → Nat × List Char
  | [] => (word, [])
  | c :: rest =>
    let next := word * 10 + (Text.digitValue? c).getD 0
    if next ≤ wordMax then growWord next rest else (word, c :: rest)

/-- Multiply a finite positive float by a power of ten that is itself rounded to a float. -/
def timesPower (magnitude power : Nat) : Nat :=
  let (num, den) := FloatFormat.double.ratio magnitude
  let (pnum, pden) := FloatFormat.double.ratio (FloatFormat.double.roundRatio (10 ^ power) 1)
  FloatFormat.double.roundRatio (num * pnum) (den * pden)

/-- Divide a finite positive float by a power of ten that is itself rounded to a float. -/
def overPower (magnitude power : Nat) : Nat :=
  let (num, den) := FloatFormat.double.ratio magnitude
  let (pnum, pden) := FloatFormat.double.ratio (FloatFormat.double.roundRatio (10 ^ power) 1)
  FloatFormat.double.roundRatio (num * pden) (den * pnum)

/--
A float divided by a power of ten, by steps of `10 ^ 308` where the exponent is larger; a zero needs
no more steps.
-/
def scaleDown (magnitude : Nat) : Nat → Nat → Nat
  | 0, _ => 0
  | fuel + 1, power =>
    if power ≤ 308 then overPower magnitude power
    else if magnitude = 0 then 0
    else scaleDown (overPower magnitude 308) fuel (power - 308)

/-- The float `significand * 10 ^ exponent` without sign; nothing if it is infinite. -/
def scaleWord (significand : Nat) (exponent : Int) : Option Nat :=
  let magnitude := FloatFormat.double.roundRatio significand 1
  if exponent < 0 then some (scaleDown magnitude 8 exponent.natAbs)
  else if 308 < exponent then if magnitude = 0 then some 0 else none
  else
    let product := timesPower magnitude exponent.natAbs
    if product < FloatFormat.double.infinity then some product else none

/-- The exponents that 32 bits hold. -/
def clampExponent (n : Int) : Int :=
  max (-2 ^ (31 : Nat)) (min n (2 ^ (31 : Nat) - 1))

/--
The float without sign of a significand word with `shift` as the exponent before the written one.
-/
def finishFloat (significand : Nat) (shift : Int) : Option (Bool × List Char) → Option Nat
  | none => scaleWord significand shift
  | some (negative, digits) =>
    let n := Text.digitsValue 0 digits
    if n < 2 ^ (31 : Nat) then
      scaleWord significand (clampExponent (if negative then shift - n else shift + n))
    else if negative = true ∨ significand = 0 then some 0
    else none

/-- A float as a JSON value. -/
def ofMagnitude (negative : Bool) : Option Nat → Json
  | some magnitude => float (.ofNat (FloatFormat.double.withSign negative magnitude))
  | none => unreadable

/-- The value of a number; one beyond the range of floats is unreadable. -/
def ofNumberText (t : NumberText) : Json :=
  let (word, dropped) := growWord 0 t.whole
  match t.fraction with
  | some digits =>
    let (significand, rest) := growWord word digits
    let shift : Int := dropped.length - (digits.length - rest.length : Nat)
    ofMagnitude t.negative (finishFloat significand shift t.exponent)
  | none =>
    if dropped = [] ∧ t.exponent = none then
      if t.negative = false then int word
      else if word = 0 ∨ 2 ^ (63 : Nat) < word then
        ofMagnitude true (some (FloatFormat.double.roundRatio word 1))
      else int (-word)
    else ofMagnitude t.negative (finishFloat word dropped.length t.exponent)

end RowCast.Json

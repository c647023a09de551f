/-!
# Decimal digits

ASCII digits, the decimal text of a number, and that text filled with zeros to a width.
-/

namespace RowCast.CorePowers

-- Opened where powers of numbers are computed, so that they are those of the core library, also
-- beside another library with powers of its own. A literal exponent needs its type for that.
attribute [scoped instance (2000)] instPowNat

end RowCast.CorePowers

namespace RowCast.Text

/-- The value of an ASCII digit; other characters, Unicode digits included, have none. -/
def digitValue? (c : Char) : Option Nat :=
  if '0' ≤ c ∧ c ≤ '9' then some (c.toNat - 48) else none

/-- Whether a character is an ASCII digit. -/
def isDigit (c : Char) : Bool :=
  (digitValue? c).isSome

/-- The digit of value `d`, for `d` below ten. -/
def digitChar (d : Nat) : Char :=
  Char.ofNat (48 + d)

/-- Put the decimal digits of `n` before `tail`; `n + 1` rounds of fuel are enough. -/
def digitsOnto : Nat → Nat → List Char → List Char
  | 0, _, tail => tail
  | fuel + 1, n, tail =>
    if n < 10 then digitChar n :: tail
    else digitsOnto fuel (n / 10) (digitChar (n % 10) :: tail)

/-- The decimal text of a natural number, without leading zeros. -/
def natText (n : Nat) : List Char :=
  digitsOnto (n + 1) n []

/-- The decimal text of an integer, with `-` before a negative one. -/
def intText (n : Int) : List Char :=
  if n < 0 then '-' :: natText n.natAbs else natText n.natAbs

/-- The decimal text of `n` with zeros in front up to `width` digits. -/
def paddedText (width n : Nat) : List Char :=
  List.replicate (width - (natText n).length) '0' ++ natText n

/-- The number that a run of digits writes, after the digits already read as `acc`. -/
def digitsValue (acc : Nat) : List Char → Nat
  | [] => acc
  | c :: rest => digitsValue (acc * 10 + (digitValue? c).getD 0) rest

/-- The leading ASCII digits of a text and what follows them. -/
def spanDigits (s : List Char) : List Char × List Char :=
  (s.takeWhile isDigit, s.dropWhile isDigit)

end RowCast.Text

/-!
# Hexadecimal digits

Hexadecimal digits and the hexadecimal text of a number.
-/

namespace RowCast.Text

/-- The small hexadecimal digit of value `d`, for `d` below sixteen. -/
def hexDigit (d : Nat) : Char :=
  if d < 10 then Char.ofNat (48 + d) else Char.ofNat (87 + d)

/-- The value of a hexadecimal digit in either case. -/
def hexValue? (c : Char) : Option Nat :=
  if '0' ≤ c ∧ c ≤ '9' then some (c.toNat - 48)
  else if 'a' ≤ c ∧ c ≤ 'f' then some (c.toNat - 87)
  else if 'A' ≤ c ∧ c ≤ 'F' then some (c.toNat - 55)
  else none

/-- Put the hexadecimal digits of `n` before `tail`; `n + 1` rounds of fuel are enough. -/
def hexOnto : Nat → Nat → List Char → List Char
  | 0, _, tail => tail
  | fuel + 1, n, tail =>
    if n < 16 then hexDigit n :: tail else hexOnto fuel (n / 16) (hexDigit (n % 16) :: tail)

/-- The hexadecimal text of a number in small letters, without leading zeros. -/
def hexText (n : Nat) : List Char :=
  hexOnto (n + 1) n []

end RowCast.Text

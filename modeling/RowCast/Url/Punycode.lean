import RowCast.Text.Digits

/-!
# Punycode

Texts with characters beyond ASCII written in letters, digits and hyphens: the ASCII characters
first, then numbers that say which character is put in next and where.
-/

namespace RowCast.Url

open scoped CorePowers

/-- The value of a digit: `a` to `z` are 0 to 25, `0` to `9` are 26 to 35. -/
def punycodeDigit? (c : Char) : Option Nat :=
  let n := c.toLower.toNat
  if 97 ≤ n ∧ n ≤ 122 then some (n - 97)
  else if 48 ≤ n ∧ n ≤ 57 then some (n - 22)
  else none

/-- The least digit that does not end a number, by 36 times its place from 1 and by the bias. -/
def digitThreshold (place bias : Nat) : Nat :=
  if place ≤ bias then 1 else if bias + 26 ≤ place then 26 else place - bias

/-- Divide a step by 35 until it is at most 455, and add 36 to the bias each time. -/
def shrinkStep (step bias : Nat) : Nat × Nat :=
  if 455 < step then shrinkStep (step / 35) (bias + 36) else (step, bias)
termination_by step
decreasing_by exact Nat.div_lt_self (by omega) (by omega)

/-- The bias that suits numbers of the size of a step, in a text of `count` characters. -/
def biasAfter (step count : Nat) (isFirst : Bool) : Nat :=
  let step := if isFirst then step / 700 else step / 2
  let (step, bias) := shrinkStep (step + step / count) 0
  bias + 36 * step / (step + 38)

/-- The state of reading: the text so far, and the number whose digits are being read. -/
structure Punycode where
  text : List Char
  /-- The code point put in last. -/
  point : Nat
  /-- The index behind the character put in last. -/
  index : Nat
  bias : Nat
  /-- The value of the digits read so far. -/
  step : Nat
  /-- What the next digit is multiplied by. -/
  weight : Nat
  /-- The place of the next digit, times 36. -/
  place : Nat
  deriving DecidableEq, Repr

namespace Punycode

/-- The state before the first digit. -/
def start (basic : List Char) : Punycode :=
  ⟨basic, 128, 0, 72, 0, 1, 36⟩

/--
Put in the character that a whole number tells. The number counts, one by one, the places of the
text for the present code point, then those for the next one, and so on.
-/
def insert? (p : Punycode) : Option Punycode :=
  let count := p.text.length + 1
  let point := p.point + (p.index + p.step) / count
  let index := (p.index + p.step) % count
  if point < 0xd800 ∨ (0xdfff < point ∧ point < 0x110000) then
    some ⟨p.text.insertIdx index (Char.ofNat point), point, index + 1,
      biasAfter p.step count (p.index == 0), 0, 1, 36⟩
  else none

/-- Read a digit. Numbers of more than 32 bits are refused. -/
def read? (p : Punycode) (c : Char) : Option Punycode := do
  let digit ← punycodeDigit? c
  let step := p.step + digit * p.weight
  let threshold := digitThreshold p.place p.bias
  if 2 ^ (32 : Nat) ≤ p.index + step then none
  else if digit < threshold then insert? { p with step }
  else if 2 ^ (32 : Nat) ≤ p.weight * (36 - threshold) then none
  else some { p with step, weight := p.weight * (36 - threshold), place := p.place + 36 }

/-- The text that a code stands for. The last hyphen ends the ASCII characters, if there are any. -/
def decode? (code : List Char) : Option (List Char) := do
  let numbers := (code.reverse.takeWhile (· != '-')).reverse
  let basic := code.take (code.length - numbers.length - 1)
  let final ← (if basic = [] then code else numbers).foldlM read? (start basic)
  if final.place = 36 then some final.text else none

end Punycode

end RowCast.Url

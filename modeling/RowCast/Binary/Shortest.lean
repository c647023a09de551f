import RowCast.Binary.Number
import RowCast.Text.Digits

/-!
# Shortest decimal text of binary numbers

The fewest decimal digits that read back as a given number, written without an exponent.
-/

namespace RowCast.Shortest

open scoped CorePowers

/-- The numbers that round to one binary number: its value and the ends, over one denominator. -/
structure Interval where
  low : Nat
  value : Nat
  high : Nat
  den : Nat
  /-- The ends themselves round to the number. -/
  closed : Bool

/-- The interval of a finite positive pattern. -/
def interval (f : FloatFormat) (magnitude : Nat) : Interval :=
  let (significand, exponent) := f.parts magnitude
  let unit := 2 ^ exponent.toNat
  let below := if significand = 2 ^ f.fractionBits ∧ f.leastExponent < exponent then 1 else 2
  ⟨(4 * significand - below) * unit, 4 * significand * unit, (4 * significand + 2) * unit,
    4 * 2 ^ (-exponent).toNat, significand % 2 = 0⟩

/-- Whether `digits * 10 ^ exponent` lies in the interval. -/
def Interval.contains (i : Interval) (digits : Nat) (exponent : Int) : Bool :=
  let point := digits * 10 ^ exponent.toNat * i.den
  let shift := 10 ^ (-exponent).toNat
  if i.closed then i.low * shift ≤ point && point ≤ i.high * shift
  else i.low * shift < point && point < i.high * shift

/--
The distance of `digits * 10 ^ exponent` from the value, in units that depend on `exponent` alone.
-/
def Interval.distance (i : Interval) (digits : Nat) (exponent : Int) : Nat :=
  let point := digits * 10 ^ exponent.toNat * i.den
  let value := i.value * 10 ^ (-exponent).toNat
  (point - value) + (value - point)

/-- The greatest exponent of ten whose power is at most `num / den`, from `fuel - 400` down. -/
def decimalLog (num den : Nat) : Nat → Int
  | 0 => -400
  | fuel + 1 =>
    let e : Int := (fuel : Int) + 1 - 400
    if den * 10 ^ e.toNat ≤ num * 10 ^ (-e).toNat then e else decimalLog num den fuel

/-- The best point of one decimal grid in the interval, if there is one. -/
def gridPoint (i : Interval) (exponent : Int) : Option Nat :=
  let below := i.value * 10 ^ (-exponent).toNat / (i.den * 10 ^ exponent.toNat)
  let hits := [below, below + 1].filter fun d => i.contains d exponent
  match hits with
  | [a, b] => some (if i.distance b exponent < i.distance a exponent then b else a)
  | [a] => some a
  | _ => none

/--
The digits and the exponent of ten of the first grid, from coarse to fine, with a point inside.
-/
def search (i : Interval) (exponent : Int) : Nat → Nat × Int
  | 0 => (i.value * 10 ^ (-exponent).toNat / (i.den * 10 ^ exponent.toNat), exponent)
  | fuel + 1 =>
    match gridPoint i exponent with
    | some digits => (digits, exponent)
    | none => search i (exponent - 1) fuel

/-- The shortest digits of a finite positive pattern and the exponent of ten of the last one. -/
def digits (f : FloatFormat) (magnitude : Nat) : Nat × Int :=
  let i := interval f magnitude
  search i (decimalLog i.value i.den 800) 20

/-- A number of decimal digits and an exponent, written positionally. -/
def positional (digits : Nat) (exponent : Int) : List Char :=
  if 0 ≤ exponent then
    Text.natText digits ++ List.replicate (if digits = 0 then 0 else exponent.toNat) '0'
  else
    let places := (-exponent).toNat
    let padded := Text.paddedText (places + 1) digits
    padded.take (padded.length - places) ++ '.' :: padded.drop (padded.length - places)

/-- The shortest text of a finite number of 64 bits, with `-` for a set sign bit. -/
def text (x : Binary64) : List Char :=
  let body :=
    if x.magnitude = 0 then ['0']
    else
      let (d, e) := digits .double x.magnitude
      positional d e
  if x.isNegative then '-' :: body else body

end RowCast.Shortest

import RowCast.Binary.Format
import RowCast.Decimal.Basic

/-!
# Binary numbers

Floating point values of 32 and 64 bits, known by their bit patterns, and the conversions between
them, integers and decimals. Equality of patterns is finer than equality of numbers.
-/

namespace RowCast

open scoped CorePowers

/-- A floating point value of 32 bits. -/
structure Binary32 where
  bits : UInt32
  deriving DecidableEq, Repr

/-- A floating point value of 64 bits. -/
structure Binary64 where
  bits : UInt64
  deriving DecidableEq, Repr

namespace Binary32

/-- The value of a pattern of 32 bits. -/
def ofNat (bits : Nat) : Binary32 := ⟨UInt32.ofNat bits⟩

/-- Whether a pattern of 32 bits is no number. -/
def isNotANumber (x : Binary32) : Bool := FloatFormat.single.isNotANumber x.bits.toNat

/-- Whether a pattern of 32 bits is a finite number. -/
def isFinite (x : Binary32) : Bool := FloatFormat.single.isFinite x.bits.toNat

/-- Equality of numbers of 32 bits, with equal zeros. -/
def sameNumber (x y : Binary32) : Bool := FloatFormat.single.sameNumber x.bits.toNat y.bits.toNat

/-- The value of 32 bits nearest to an integer. -/
def ofInt (n : Int) : Binary32 :=
  ofNat (FloatFormat.single.withSign (n < 0) (FloatFormat.single.roundRatio n.natAbs 1))

end Binary32

namespace Binary64

/-- The value of a pattern of 64 bits. -/
def ofNat (bits : Nat) : Binary64 := ⟨UInt64.ofNat bits⟩

/-- Positive zero. -/
def zero : Binary64 := ⟨0⟩

/-- Whether a pattern of 64 bits is no number. -/
def isNotANumber (x : Binary64) : Bool := FloatFormat.double.isNotANumber x.bits.toNat

/-- Whether a pattern of 64 bits is a finite number. -/
def isFinite (x : Binary64) : Bool := FloatFormat.double.isFinite x.bits.toNat

/-- Whether the sign bit of a pattern of 64 bits is set. -/
def isNegative (x : Binary64) : Bool := FloatFormat.double.isNegative x.bits.toNat

/-- The bit pattern without its sign bit. -/
def magnitude (x : Binary64) : Nat := FloatFormat.double.magnitude x.bits.toNat

/-- Equality of numbers of 64 bits, with equal zeros. -/
def sameNumber (x y : Binary64) : Bool := FloatFormat.double.sameNumber x.bits.toNat y.bits.toNat

/-- The value nearest to a ratio, with the given sign. -/
def ofRatio (negative : Bool) (num den : Nat) : Binary64 :=
  ofNat (FloatFormat.double.withSign negative (FloatFormat.double.roundRatio num den))

/-- The value of 64 bits nearest to an integer. -/
def ofInt (n : Int) : Binary64 := ofRatio (n < 0) n.natAbs 1

/-- The value nearest to a decimal; a negative zero keeps its sign. -/
def ofDecimal (d : Decimal) : Binary64 := ofRatio d.negative d.mantissa (10 ^ d.scale)

/-- The value of a narrower number, unchanged. -/
def ofBinary32 (x : Binary32) : Binary64 :=
  ofNat (FloatFormat.convert .single .double x.bits.toNat)

end Binary64

/-- The nearest narrower value. -/
def Binary64.toBinary32 (x : Binary64) : Binary32 :=
  .ofNat (FloatFormat.convert .double .single x.bits.toNat)

end RowCast

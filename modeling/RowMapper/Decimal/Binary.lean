import RowMapper.IntRange

/-!
# Binary floating-point numbers

A floating-point number is its bit pattern, and every operation on it is exact arithmetic on natural
numbers followed by one rounding to the nearest representable number, ties to the even one.

* `BinaryFormat` — precision, exponent range and width of a format;
* `BinaryFormat.decode` — the magnitude that a pattern without its sign stands for;
* `BinaryFormat.round` — the pattern nearest to a quotient of natural numbers;
* `Binary64` and `Binary32` — the two formats that databases exchange.
-/

namespace RowMapper

/-- A binary floating-point format. -/
structure BinaryFormat where
  /-- Bits of a significand, the leading one included. -/
  precision : Nat
  /-- Bits of the exponent field. -/
  exponentBits : Nat
  /-- Exponent of the last place of the smallest numbers. -/
  minExponent : Int
  deriving DecidableEq, Repr

/-- What a pattern without its sign bit stands for. -/
inductive Magnitude where
  /-- The number `significand * 2 ^ exponent`. -/
  | finite (significand : Nat) (exponent : Int)
  | infinite
  | nan
  deriving DecidableEq, Repr

/-- The quotient of two natural numbers, rounded to the nearest integer, ties to the even one. -/
def divToEven (num den : Nat) : Nat :=
  let quotient := num / den
  let twice := 2 * (num % den)
  if twice < den then quotient
  else if den < twice then quotient + 1
  else if quotient % 2 = 0 then quotient else quotient + 1

namespace BinaryFormat

/-- Double precision. -/
def double : BinaryFormat := ⟨53, 11, -1074⟩

/-- Single precision. -/
def single : BinaryFormat := ⟨24, 8, -149⟩

/-- The least significand of a number that is not subnormal. -/
def hidden (f : BinaryFormat) : Nat := 1 <<< (f.precision - 1)

/-- The exponent field of infinity and of undefined numbers: all its bits are set. -/
def fullField (f : BinaryFormat) : Nat := 1 <<< f.exponentBits - 1

/-- The pattern of infinity: the exponent field is full and the fraction is zero. -/
def infinity (f : BinaryFormat) : Nat := f.fullField * f.hidden

/-- The pattern of an undefined number. -/
def undefined (f : BinaryFormat) : Nat := f.infinity + f.hidden / 2

/-- The bit that holds the sign. -/
def signBit (f : BinaryFormat) : Nat := (f.fullField + 1) * f.hidden

/-- The magnitude of a pattern without its sign. -/
def decode (f : BinaryFormat) (pattern : Nat) : Magnitude :=
  let field := pattern / f.hidden
  let fraction := pattern % f.hidden
  if field = f.fullField then if fraction = 0 then .infinite else .nan
  else if field = 0 then .finite fraction f.minExponent
  else .finite (f.hidden + fraction) (f.minExponent + field - 1)

/-- The integer part of the binary logarithm of a positive quotient. -/
def floorLog2 (num den : Nat) : Int :=
  let guess : Int := (num.log2 : Int) - den.log2
  if den <<< guess.toNat ≤ num <<< (-guess).toNat then guess else guess - 1

/-- The pattern nearest to `num / den`.  Patterns grow with the numbers they stand for, so a carry
out of the significand moves on to the next exponent by itself. -/
def round (f : BinaryFormat) (num den : Nat) : Nat :=
  if num = 0 then 0
  else
    let wanted := floorLog2 num den - (f.precision - 1 : Nat)
    let exponent := if wanted < f.minExponent then f.minExponent else wanted
    let significand := divToEven (num <<< (-exponent).toNat) (den <<< exponent.toNat)
    min ((exponent - f.minExponent).toNat * f.hidden + significand) f.infinity

/-- The pattern nearest to `significand * 2 ^ exponent`. -/
def roundScaled (f : BinaryFormat) (significand : Nat) (exponent : Int) : Nat :=
  f.round (significand <<< exponent.toNat) (1 <<< (-exponent).toNat)

/-- The pattern of another format's magnitude. -/
def ofMagnitude (f : BinaryFormat) : Magnitude → Nat
  | .finite m q => f.roundScaled m q
  | .infinite => f.infinity
  | .nan => f.undefined

/-- The pattern nearest to the product of two magnitudes. -/
def mul (f : BinaryFormat) : Magnitude → Magnitude → Nat
  | .finite m q, .finite n r => f.roundScaled (m * n) (q + r)
  | .nan, _ | _, .nan => f.undefined
  | .infinite, .finite n _ => if n = 0 then f.undefined else f.infinity
  | .finite m _, .infinite => if m = 0 then f.undefined else f.infinity
  | .infinite, .infinite => f.infinity

/-- The pattern nearest to the quotient of a magnitude and a positive finite one. -/
def div (f : BinaryFormat) : Magnitude → Magnitude → Nat
  | .finite m q, .finite n r =>
    let shift := q - r
    f.round (m <<< shift.toNat) (n <<< (-shift).toNat)
  | .infinite, .finite _ _ => f.infinity
  | _, _ => f.undefined

end BinaryFormat

/-- A double precision number. -/
structure Binary64 where
  bits : UInt64
  deriving DecidableEq, Repr, Inhabited

/-- A single precision number. -/
structure Binary32 where
  bits : UInt32
  deriving DecidableEq, Repr, Inhabited

namespace Binary64

/-- The number with a sign and the pattern of a magnitude. -/
def ofParts (negative : Bool) (pattern : Nat) : Binary64 :=
  ⟨UInt64.ofNat (pattern + if negative then BinaryFormat.double.signBit else 0)⟩

/-- Whether the sign bit is set. -/
def negative (x : Binary64) : Bool := x.bits.toNat ≥ BinaryFormat.double.signBit

/-- The number without its sign. -/
def magnitude (x : Binary64) : Magnitude :=
  BinaryFormat.double.decode (x.bits.toNat % BinaryFormat.double.signBit)

/-- Whether the number is undefined. -/
def isNaN (x : Binary64) : Bool := x.magnitude == .nan

/-- The number nearest to an integer. -/
def ofInt (n : Int) : Binary64 :=
  ofParts (n < 0) (BinaryFormat.double.round n.natAbs 1)

/-- The single precision number nearest to this one; too large a number becomes infinite. -/
def toBinary32 (x : Binary64) : Binary32 :=
  ⟨UInt32.ofNat (BinaryFormat.single.ofMagnitude x.magnitude +
    if x.negative then BinaryFormat.single.signBit else 0)⟩

/-- The nearest signed 64-bit integer.  A half goes away from zero, numbers out of range go to the
nearest bound, and an undefined number is zero. -/
def toInt64 (x : Binary64) : Int :=
  match x.magnitude with
  | .nan => 0
  | .infinite => if x.negative then IntRange.int64.least else IntRange.int64.most
  | .finite m q =>
    let den := 1 <<< (-q).toNat
    let size : Int := ((2 * (m <<< q.toNat) + den) / (2 * den) : Nat)
    IntRange.int64.clamp (if x.negative then -size else size)

end Binary64

namespace Binary32

/-- Whether the sign bit is set. -/
def negative (x : Binary32) : Bool := x.bits.toNat ≥ BinaryFormat.single.signBit

/-- The number without its sign. -/
def magnitude (x : Binary32) : Magnitude :=
  BinaryFormat.single.decode (x.bits.toNat % BinaryFormat.single.signBit)

/-- Whether the number is undefined. -/
def isNaN (x : Binary32) : Bool := x.magnitude == .nan

/-- The number nearest to an integer. -/
def ofInt (n : Int) : Binary32 :=
  ⟨UInt32.ofNat (BinaryFormat.single.round n.natAbs 1 +
    if n < 0 then BinaryFormat.single.signBit else 0)⟩

/-- The same number in double precision. -/
def toBinary64 (x : Binary32) : Binary64 :=
  .ofParts x.negative (BinaryFormat.double.ofMagnitude x.magnitude)

end Binary32

example : Binary64.ofInt 1 = ⟨0x3ff0000000000000⟩ := by decide +kernel
example : Binary64.ofInt 9007199254740993 = Binary64.ofInt 9007199254740992 := by decide +kernel
example : (Binary32.mk 0x3dcccccd).toBinary64 = ⟨0x3fb99999a0000000⟩ := by decide +kernel
example : (Binary64.mk 0x7e37e43c8800759c).toBinary32 = ⟨0x7f800000⟩ := by decide +kernel

end RowMapper

import RowMapper.Decimal.Binary

/-!
# Pairs of floating-point numbers

Sums, differences and products of double precision numbers, each rounded once, and pairs of them.  A
pair stands for the sum of its parts, the lower of which holds what rounding took from the higher.

The product of two pairs (`Pair.mul`) splits each higher part into a leading half and what is left.
The leading halves have 27 bits, so that their product may have one bit too many: a product of pairs
is good for sixteen decimal digits, and not always for more.
-/

namespace RowMapper

namespace Binary64

/-- The number as an integer times a power of two.  One that is not finite counts as zero. -/
def parts (x : Binary64) : Int × Int :=
  match x.magnitude with
  | .finite significand exponent => (if x.negative then -significand else significand, exponent)
  | _ => (0, 0)

/-- The number nearest to `n * 2 ^ exponent`. -/
def ofScaled (n exponent : Int) : Binary64 :=
  ofParts (n < 0) (BinaryFormat.double.roundScaled n.natAbs exponent)

/-- An integer times a power of two. -/
def shiftUp (n : Int) (places : Int) : Int := n * ((1 <<< places.toNat : Nat) : Int)

/-- The number nearest to the sum. -/
def add (x y : Binary64) : Binary64 :=
  let (m, p) := x.parts
  let (n, q) := y.parts
  let exponent := if p ≤ q then p else q
  ofScaled (shiftUp m (p - exponent) + shiftUp n (q - exponent)) exponent

/-- The number with the other sign. -/
def neg (x : Binary64) : Binary64 :=
  ofScaled (-x.parts.1) x.parts.2

/-- The number nearest to the product. -/
def mul (x y : Binary64) : Binary64 := ofScaled (x.parts.1 * y.parts.1) (x.parts.2 + y.parts.2)

instance : Add Binary64 := ⟨add⟩

instance : Sub Binary64 := ⟨fun x y => x.add y.neg⟩

instance : Mul Binary64 := ⟨mul⟩

/-- What one leaves out of a pattern that is cut to its leading half. -/
def halfUnit : Nat := 67108864

/-- The number with the lower half of its significand left out. -/
def leading (x : Binary64) : Binary64 := ⟨UInt64.ofNat (x.bits.toNat / halfUnit * halfUnit)⟩

/-- The integer part of the magnitude. -/
def truncate (x : Binary64) : Nat :=
  match x.magnitude with
  | .finite significand exponent => (significand <<< exponent.toNat) / (1 <<< (-exponent).toNat)
  | _ => 0

example : ofInt 1 + ofInt 2 = ofInt 3 := by decide +kernel
example : ofInt 1 - ofInt 3 = ofInt (-2) := by decide +kernel
example : (Binary64.mk 0x3fb999999999999a) * ofInt 10 = ofInt 1 := by decide +kernel

end Binary64

/-- The sum of two floating-point numbers. -/
structure Pair where
  high : Binary64
  low : Binary64
  deriving DecidableEq

/-- The product of two pairs. -/
def Pair.mul (a b : Pair) : Pair :=
  let x := a.high.leading
  let x' := a.high - x
  let y := b.high.leading
  let y' := b.high - y
  let outer := x * y
  let cross := x * y' + x' * y
  let sum := outer + cross
  let rest := a.high * b.low + a.low * b.high + (outer - sum + cross + x' * y')
  let high := sum + rest
  ⟨high, sum - high + rest⟩

end RowMapper

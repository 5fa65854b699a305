import RowMapper.Datum
import RowMapper.Decimal.Numeral
import RowMapper.Decimal.Pair

/-!
# Floating-point numbers as text

SQLite writes a floating-point number with up to fifteen significant digits.  The number is first
scaled by powers of ten, as a pair, to an integer of eighteen or nineteen digits.  The digits are
those of this integer: where the number lies close to the middle between two decimals, the last one
may be that of the farther of them.

* `scale` — the integer and the power of ten that it is scaled by;
* `rounded` — the digits that are written;
* `write` — the text.
-/

namespace RowMapper.Sqlite.OneTable.RealText

/-- A power of ten by which numbers on one side of a limit are multiplied. -/
structure Factor where
  limit : Binary64
  value : Pair
  /-- The exponent that is taken away from the number. -/
  exponent : Int

/-- The limit above which numbers are made smaller, the last double below `2 ^ 63`. -/
def upperLimit : Binary64 := ⟨0x43dfffffffffffff⟩

/-- The factors that make a number smaller: `10 ^ (-100)`, `10 ^ (-10)` and a tenth.  Each is taken
as long as the number is above its limit. -/
def shrinking : List Factor := [
  ⟨⟨0x58a249ad2594c37c⟩, ⟨⟨0x2b2bff2ee48e0530⟩, ⟨0xa7b42a68781d46c4⟩⟩, 100⟩,
  ⟨⟨0x45f2a05f1fffffff⟩, ⟨⟨0x3ddb7cdfd9d7bdbb⟩, ⟨0xba720a5465df8d2c⟩⟩, 10⟩,
  ⟨upperLimit, ⟨⟨0x3fb999999999999a⟩, ⟨0xbc5999999999999a⟩⟩, 1⟩]

/-- The factors that make a number larger: `10 ^ 100`, `10 ^ 10` and ten.  Each is taken as long as
the number is below its limit. -/
def growing : List Factor := [
  ⟨⟨0x2ee665bf1d3e6a8c⟩, ⟨⟨0x54b249ad2594c37d⟩, ⟨0xd134f4d87b3b31f4⟩⟩, -100⟩,
  ⟨⟨0x4195fd7fe1796495⟩, ⟨⟨0x4202a05f20000000⟩, ⟨0⟩⟩, -10⟩,
  ⟨⟨0x43a9999999999999⟩, ⟨⟨0x4024000000000000⟩, ⟨0⟩⟩, -1⟩]

/-- Whether a positive number is less than another. -/
def isLess (x y : Binary64) : Bool := x.bits.toNat < y.bits.toNat

/-- A positive number and its power of ten after a factor is taken as often as `needed` says, but
not more than `most` times. -/
def Factor.apply (needed : Binary64 → Binary64 → Bool) (factor : Factor) :
    (most : Nat) → Pair × Int → Pair × Int
  | 0, state => state
  | most + 1, (number, exponent) =>
    if needed number.high factor.limit then
      factor.apply needed most (number.mul factor.value, exponent + factor.exponent)
    else (number, exponent)

/-- How often a factor is taken at most: no number of double precision needs it more often. -/
def most : Nat := 16

/-- A positive number as an integer of eighteen or nineteen digits times a power of ten. -/
def scale (x : Binary64) : Nat × Int :=
  let start : Pair × Int := (⟨x, ⟨0⟩⟩, 0)
  let (number, exponent) :=
    if isLess upperLimit x then
      shrinking.foldl (fun state factor => factor.apply (fun x limit => isLess limit x) most state)
        start
    else growing.foldl (fun state factor => factor.apply isLess most state) start
  let whole := number.high.truncate
  let rest := number.low.truncate
  (if number.low.negative then whole - rest else whole + rest, exponent)

/-- How many digits are written at most. -/
def digitCount : Nat := 15

/-- The number of tens that divide a number, at most `limit`, and what is left. -/
def dropZeros : (limit : Nat) → Nat → Nat × Nat
  | 0, n => (0, n)
  | limit + 1, n =>
    if n % 10 = 0 then
      let (zeros, n) := dropZeros limit (n / 10)
      (zeros + 1, n)
    else (0, n)

/-- The digits that are written for a positive number, and their power of ten.  A half goes up. -/
def rounded (x : Binary64) : Nat × Int :=
  let (n, exponent) := scale x
  let extra := (Decimal.digits n).length - (digitCount + 1)
  let (zeros, point) := dropZeros digitCount ((n / Decimal.powerOfTen extra + 5) / 10)
  (point, exponent + extra + 1 + zeros)

/-- The text of `point * 10 ^ k`: all digits if the leading one is near the point, else one digit
before the point, at least one after it, and an exponent of two digits or more. -/
def layOut (point : Nat) (k : Int) : String :=
  let digits := Decimal.digits point
  let leading : Int := k + digits.length - 1
  if -4 ≤ leading && leading < digitCount then messageStyle.layOut point k
  else
    let fraction := if digits.length ≤ 1 then ['0'] else digits.drop 1
    String.ofList (digits.take 1 ++ '.' :: fraction ++
      'e' :: (if leading < 0 then '-' else '+') :: Decimal.padded 2 leading.natAbs)

/-- The text of a floating-point number; a zero has no sign. -/
def write (x : Binary64) : String :=
  let sign := if x.negative then "-" else ""
  match x.magnitude with
  | .nan => "NaN"
  | .infinite => sign ++ "Inf"
  | .finite significand _ =>
    if significand = 0 then "0.0"
    else
      let (point, k) := rounded (.ofParts false (x.bits.toNat % BinaryFormat.double.signBit))
      sign ++ layOut point k

example : scale (.ofInt 15) = (1500000000000000000, -17) := by decide +kernel
example : rounded ⟨0x3fb999999999999a⟩ = (1, -1) := by decide +kernel

end RowMapper.Sqlite.OneTable.RealText

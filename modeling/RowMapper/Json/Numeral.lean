import RowMapper.Json
import RowMapper.Decimal.Numeral

/-!
# Numerals in JSON texts

`Numeral.scan` cuts the longest numeral off a text, and `Numeral.number?` is the number it stands
for.  An integer that fits in 64 bits, signed or unsigned, is read exactly.  Any other numeral is
read in double precision in three steps, each with its own rounding: as many leading digits as fit
in 64 bits form the significand, which is rounded; a power of ten up to 308 is rounded; and their
product or quotient is rounded.  Smaller numbers take several quotients.
-/

namespace RowMapper

/-- The parts of a numeral. -/
structure Numeral where
  negative : Bool
  /-- Digits before the point. -/
  whole : List Char
  /-- Digits after the point, if there is one. -/
  fraction : List Char
  /-- Whether the exponent is negative, and its digits, if there is one. -/
  exponent : Option (Bool × List Char)
  deriving DecidableEq, Repr

namespace Numeral

/-- The digits before the point: a single zero, or digits of which the first is no zero. -/
def scanWhole (s : List Char) : Option (List Char × List Char) :=
  let ds := s.takeWhile Char.isDigit
  let rest := s.dropWhile Char.isDigit
  match ds with
  | [] => none
  | '0' :: _ :: _ => none
  | _ => some (ds, rest)

/-- The digits after the point.  A point needs at least one. -/
def scanFraction : List Char → Option (List Char × List Char)
  | '.' :: s =>
    match s.takeWhile Char.isDigit with
    | [] => none
    | ds => some (ds, s.dropWhile Char.isDigit)
  | s => some ([], s)

/-- The sign and digits of an exponent that follow its mark. -/
def scanPower (s : List Char) : Option (Option (Bool × List Char) × List Char) :=
  let (negative, s) := match s with
    | '+' :: r => (false, r)
    | '-' :: r => (true, r)
    | r => (false, r)
  match s.takeWhile Char.isDigit with
  | [] => none
  | ds => some (some (negative, ds), s.dropWhile Char.isDigit)

/-- The exponent, if the text goes on with one. -/
def scanExponent : List Char → Option (Option (Bool × List Char) × List Char)
  | 'e' :: s => scanPower s
  | 'E' :: s => scanPower s
  | s => some (none, s)

/-- Cuts a numeral off a text. -/
def scan (s : List Char) : Option (Numeral × List Char) := do
  let (negative, s) := match s with
    | '-' :: r => (true, r)
    | r => (false, r)
  let (whole, s) ← scanWhole s
  let (fraction, s) ← scanFraction s
  let (exponent, s) ← scanExponent s
  return (⟨negative, whole, fraction, exponent⟩, s)

/-- Appends digits to a number while it stays within the limit; the second part holds the digits
left over. -/
def extend (limit : Nat) : Nat → List Char → Nat × List Char
  | acc, [] => (acc, [])
  | acc, c :: rest =>
    let next := acc * 10 + Decimal.digitValue c
    if next ≤ limit then extend limit next rest else (acc, c :: rest)

/-- The pattern of a power of ten. -/
def tenTo (n : Nat) : Nat := BinaryFormat.double.round (Decimal.powerOfTen n) 1

/-- The pattern of a number times `10 ^ exponent`, where no rounding may reach infinity.  The steps
count the quotients by `10 ^ 308`; after three of them nothing is left of a 64-bit significand. -/
def scaleTen (pattern : Nat) : Nat → Int → Option Nat
  | steps, exponent =>
    let f := BinaryFormat.double
    if exponent.natAbs ≤ 308 then
      if 0 ≤ exponent then
        let product := f.mul (f.decode pattern) (f.decode (tenTo exponent.natAbs))
        if product = f.infinity then none else some product
      else some (f.div (f.decode pattern) (f.decode (tenTo exponent.natAbs)))
    else if pattern = 0 then some 0
    else if 0 ≤ exponent then none
    else
      match steps with
      | 0 => some 0
      | steps + 1 =>
        scaleTen (f.div (f.decode pattern) (f.decode (tenTo 308))) steps (exponent + 308)

/-- The largest significand that is kept. -/
def maxSignificand : Nat := IntRange.uint64.most.toNat

/-- The largest exponent that is kept. -/
def maxExponent : Nat := IntRange.int32.most.toNat

/-- The double precision number of a significand and an exponent. -/
def double? (negative : Bool) (significand : Nat) (exponent : Int) : Option JsonNumber :=
  (scaleTen (BinaryFormat.double.round significand 1) 4 exponent).map fun pattern =>
    .double (.ofParts negative pattern)

/-- The number of a numeral, unless it is too large. -/
def number? (n : Numeral) : Option JsonNumber :=
  let (integer, excess) := extend maxSignificand 0 n.whole
  match n.fraction, n.exponent, excess with
  | [], none, [] =>
    if !n.negative then some (.integer integer)
    else if 0 < integer ∧ integer ≤ IntRange.int64.least.natAbs then
      some (.integer (-(integer : Int)))
    else double? true integer 0
  | _, _, _ =>
    let (significand, unread) := extend maxSignificand integer n.fraction
    let point : Int := (excess.length : Int) - (n.fraction.length - unread.length : Nat)
    match n.exponent with
    | none => double? n.negative significand point
    | some (negative, ds) =>
      match extend maxExponent 0 ds with
      | (power, []) =>
        double? n.negative significand
          (IntRange.int32.clamp (if negative then point - power else point + power))
      | (_, _ :: _) =>
        if significand ≠ 0 ∧ !negative then none
        else some (.double (.ofParts n.negative 0))

end Numeral

end RowMapper

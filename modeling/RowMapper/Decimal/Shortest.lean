import RowMapper.Decimal.Numeral
import RowMapper.Decimal.Binary

/-!
# Shortest decimals

The shortest decimal that reads back as a given floating-point number, and its text.

A floating-point number stands for all the reals that round to it, an interval around its own value
that has its ends exactly when the significand is even.  `Decimal.shortest` goes through the grids
of the multiples of a power of ten, coarse ones first, and takes the first grid with a point in the
interval; of two such points it takes the nearer one.  `DecimalStyle.write` then lays the digits
out.
-/

namespace RowMapper

/-- Which of two equally near decimals is taken. -/
inductive TieRule where
  /-- The one with an even last digit. -/
  | even
  /-- The one further from zero. -/
  | up
  deriving DecidableEq, Repr

namespace Decimal

/-- The reals that round to one floating-point number, in quarters of its last place: the number
itself is `4 * significand`, and `exponent` is that of a quarter. -/
structure Neighbourhood where
  low : Nat
  centre : Nat
  high : Nat
  closed : Bool
  exponent : Int

/-- The reals that round to `significand * 2 ^ exponent`.  Below a power of two the numbers lie
twice as close. -/
def neighbourhood (f : BinaryFormat) (significand : Nat) (exponent : Int) : Neighbourhood where
  low := 4 * significand -
    if significand = f.hidden ∧ f.minExponent < exponent then 1 else 2
  centre := 4 * significand
  high := 4 * significand + 2
  closed := significand % 2 = 0
  exponent := exponent - 2

/-- The multiple of `10 ^ k` in the neighbourhood that is nearest to its centre, divided by
`10 ^ k`. -/
def onGrid (tie : TieRule) (r : Neighbourhood) (k : Int) : Option Nat :=
  -- In a common unit, a grid point is `a * point` and a quarter of the last place is `b`.
  let a := powerOfTen k.toNat <<< (-r.exponent).toNat
  let b := powerOfTen (-k).toNat <<< r.exponent.toNat
  let inside (point : Nat) : Bool :=
    if r.closed then r.low * b ≤ point * a && point * a ≤ r.high * b
    else r.low * b < point * a && point * a < r.high * b
  let below := r.centre * b / a
  let above := below + 1
  match inside below, inside above with
  | false, false => none
  | true, false => some below
  | false, true => some above
  | true, true =>
    let down := r.centre * b - below * a
    let up := above * a - r.centre * b
    if down < up then some below
    else if up < down then some above
    else
      match tie with
      | .up => some above
      | .even => some (if below % 2 = 0 then below else above)

/-- The first grid from `10 ^ k` downwards that meets the neighbourhood. -/
def coarsest (tie : TieRule) (r : Neighbourhood) : Nat → Int → Nat × Int
  | 0, k => (0, k)
  | steps + 1, k =>
    match onGrid tie r k with
    | some point => (point, k)
    | none => coarsest tie r steps (k - 1)

/-- Digits and power of ten of the shortest decimal that reads back as `significand * 2 ^ exponent`.
No number needs more than seventeen digits, and the first grid lies at most two places above the
leading digit. -/
def shortest (f : BinaryFormat) (tie : TieRule) (significand : Nat) (exponent : Int) : Nat × Int :=
  let top := ((significand.log2 : Int) + exponent + 1) * 30103 / 100000 + 1
  coarsest tie (neighbourhood f significand exponent) 24 top

end Decimal

/-- How the text of a floating-point number is laid out. -/
structure DecimalStyle where
  /-- Decimal exponent of the leading digit from which on the exponent is written. -/
  exponentFrom : Int
  /-- Decimal exponent of the leading digit below which the exponent is written. -/
  exponentBelow : Int
  /-- What stands before a positive exponent. -/
  plus : String
  /-- Which of two equally near decimals is written. -/
  tie : TieRule
  deriving DecidableEq, Repr

namespace DecimalStyle

/-- The text of `point * 10 ^ k`, without a sign. -/
def layOut (style : DecimalStyle) (point : Nat) (k : Int) : String :=
  let ds := Decimal.digits point
  let leading : Int := k + ds.length - 1
  if style.exponentBelow ≤ leading && leading < style.exponentFrom then
    if 0 ≤ k then String.ofList (ds ++ List.replicate k.toNat '0') ++ ".0"
    else if 0 ≤ leading then
      String.ofList (ds.take (leading.toNat + 1)) ++ "." ++ String.ofList (ds.drop (leading.toNat + 1))
    else "0." ++ String.ofList (List.replicate (-leading - 1).toNat '0' ++ ds)
  else
    let fraction := if ds.length ≤ 1 then "" else "." ++ String.ofList (ds.drop 1)
    let sign := if leading < 0 then "-" else style.plus
    String.ofList (ds.take 1) ++ fraction ++ "e" ++ sign ++ toString leading.natAbs

/-- The text of a magnitude. -/
def write (style : DecimalStyle) (f : BinaryFormat) (negative : Bool) : Magnitude → String
  | .nan => "NaN"
  | .infinite => if negative then "-inf" else "inf"
  | .finite significand exponent =>
    let sign := if negative then "-" else ""
    if significand = 0 then sign ++ "0.0"
    else
      let (point, k) := Decimal.shortest f style.tie significand exponent
      sign ++ style.layOut point k

end DecimalStyle

/-- The text of a double precision number in a style. -/
def Binary64.write (style : DecimalStyle) (x : Binary64) : String :=
  style.write .double x.negative x.magnitude

/-- The text of a single precision number in a style. -/
def Binary32.write (style : DecimalStyle) (x : Binary32) : String :=
  style.write .single x.negative x.magnitude

end RowMapper

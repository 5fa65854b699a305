/-!
# Base sixteen

Numbers and bytes written with the digits 0 to 9 and a to f.  Capital letters are read too.
-/

namespace RowMapper.Base16

/-- The value of a digit. -/
def digit? (c : Char) : Option Nat :=
  if '0' ≤ c ∧ c ≤ '9' then some (c.toNat - '0'.toNat)
  else if 'a' ≤ c ∧ c ≤ 'f' then some (c.toNat - 'a'.toNat + 10)
  else if 'A' ≤ c ∧ c ≤ 'F' then some (c.toNat - 'A'.toNat + 10)
  else none

/-- The number of a text of digits. -/
def number? (digits : List Char) : Option Nat :=
  digits.foldlM (fun n c => (digit? c).map (16 * n + ·)) 0

/-- The digits of a number, with zeros in front of it up to a width. -/
def write (width n : Nat) : List Char :=
  let digits := Nat.toDigits 16 n
  List.replicate (width - digits.length) '0' ++ digits

/-- Two digits for each byte. -/
def encode (bytes : List UInt8) : List Char := bytes.flatMap fun b => write 2 b.toNat

/-- The bytes of pairs of digits. -/
def decode : List Char → Option (List UInt8)
  | [] => some []
  | a :: b :: rest => do
    let n ← number? [a, b]
    return UInt8.ofNat n :: (← decode rest)
  | _ => none

example : encode [0, 255] = ['0', '0', 'f', 'f'] := by decide
example : decode ['0', 'a', 'F', 'f'] = some [10, 255] := by decide

end RowMapper.Base16

/-!
# Base 64 for addresses

Bytes as text over the 64 characters that need no escaping in an address, without padding.
`decode` accepts exactly the texts that `encode` writes: the bits left over in the last character
must be zero.
-/

namespace RowMapper.Base64Url

/-- The character of a number below 64. -/
def digit (n : Nat) : Char :=
  if n < 26 then Char.ofNat ('A'.toNat + n)
  else if n < 52 then Char.ofNat ('a'.toNat + (n - 26))
  else if n < 62 then Char.ofNat ('0'.toNat + (n - 52))
  else if n = 62 then '-'
  else '_'

/-- The number of a character. -/
def digit? (c : Char) : Option Nat :=
  if 'A' ≤ c ∧ c ≤ 'Z' then some (c.toNat - 'A'.toNat)
  else if 'a' ≤ c ∧ c ≤ 'z' then some (c.toNat - 'a'.toNat + 26)
  else if '0' ≤ c ∧ c ≤ '9' then some (c.toNat - '0'.toNat + 52)
  else if c = '-' then some 62
  else if c = '_' then some 63
  else none

theorem digit?_digit {n : Nat} (h : n < 64) : digit? (digit n) = some n := by
  have all : ∀ m : Fin 64, digit? (digit m) = some m.val := by decide
  exact all ⟨n, h⟩

/-- The text of a list of bytes: four characters for three bytes, and two or three for the one or
two bytes that remain. -/
def encode : List UInt8 → List Char
  | [] => []
  | [a] => [digit (a.toNat / 4), digit (a.toNat % 4 * 16)]
  | [a, b] =>
    [digit (a.toNat / 4), digit (a.toNat % 4 * 16 + b.toNat / 16), digit (b.toNat % 16 * 4)]
  | a :: b :: c :: rest =>
    digit (a.toNat / 4) :: digit (a.toNat % 4 * 16 + b.toNat / 16) ::
      digit (b.toNat % 16 * 4 + c.toNat / 64) :: digit (c.toNat % 64) :: encode rest

/-- The bytes of a list of numbers below 64. -/
def joinDigits : List Nat → Option (List UInt8)
  | [] => some []
  | [_] => none
  | [a, b] => if b % 16 = 0 then some [UInt8.ofNat (a * 4 + b / 16)] else none
  | [a, b, c] =>
    if c % 4 = 0 then some [UInt8.ofNat (a * 4 + b / 16), UInt8.ofNat (b % 16 * 16 + c / 4)] else none
  | a :: b :: c :: d :: rest =>
    (joinDigits rest).map fun bytes =>
      UInt8.ofNat (a * 4 + b / 16) :: UInt8.ofNat (b % 16 * 16 + c / 4) ::
        UInt8.ofNat (c % 4 * 64 + d) :: bytes

/-- The bytes of a text, unless it is not the text of any. -/
def decode (s : List Char) : Option (List UInt8) :=
  (s.mapM digit?).bind joinDigits

example : encode [0xfb, 0xff, 0xbf] = ['-', '_', '-', '_'] := by decide
example : decode ['a', 'Q'] = some [105] := by decide
example : decode ['a', 'b'] = none := by decide

end RowMapper.Base64Url

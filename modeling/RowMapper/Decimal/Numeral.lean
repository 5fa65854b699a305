import RowMapper.IntRange

/-!
# Decimal numerals

Digits of natural numbers, and the reading of signed integers from text.

* `Decimal.digits` and `Decimal.value` — the numeral of a number and the number of a numeral,
  inverse to each other (`value_digits`);
* `Decimal.padded` — a numeral filled with zeros to a width;
* `Decimal.readInt64` — a signed 64-bit integer, or the first fault in its text.
-/

namespace RowMapper.Decimal

/-- The decimal digits of a number, most significant first. -/
def digits (n : Nat) : List Char := Nat.toDigits 10 n

/-- The number that a list of decimal digits denotes. -/
def value (s : List Char) : Nat := Nat.ofDigitChars 10 s 0

@[simp] theorem value_digits (n : Nat) : value (digits n) = n := by
  simp [value, digits]

theorem isDigit_of_mem_digits {n : Nat} {c : Char} (h : c ∈ digits n) : c.isDigit = true :=
  Nat.isDigit_of_mem_toDigits (by decide) (by decide) h

theorem digits_ne_nil (n : Nat) : digits n ≠ [] := Nat.toDigits_ne_nil

/-- The digits of a number behind as many zeros as it takes to reach the width. -/
def padded (width n : Nat) : List Char :=
  List.replicate (width - (digits n).length) '0' ++ digits n

/-- The number that one decimal digit denotes. -/
def digitValue (c : Char) : Nat := c.toNat - '0'.toNat

/-- Ten to the power of a number. -/
def powerOfTen (n : Nat) : Nat := Nat.pow 10 n

/-- The text of an integer: a minus sign where it is negative, then its digits. -/
def ofInt : Int → List Char
  | .ofNat n => digits n
  | .negSucc n => '-' :: digits (n + 1)

/-- What is wrong with a text that should hold a signed 64-bit integer. -/
inductive IntFault where
  | empty
  | invalidDigit
  | tooLarge
  | tooSmall
  deriving DecidableEq, Repr

/-- The description of a fault. -/
def IntFault.message : IntFault → String
  | .empty => "cannot parse integer from empty string"
  | .invalidDigit => "invalid digit found in string"
  | .tooLarge => "number too large to fit in target type"
  | .tooSmall => "number too small to fit in target type"

/-- Reads digits on top of `acc`.  The first character that is no digit, or the first digit that
takes the number past the limit, decides the fault. -/
def readDigits (limit : Nat) (past : IntFault) : Nat → List Char → Except IntFault Nat
  | acc, [] => .ok acc
  | acc, c :: rest =>
    if c.isDigit then
      let next := acc * 10 + digitValue c
      if next ≤ limit then readDigits limit past next rest else .error past
    else .error .invalidDigit

/-- Reads a signed 64-bit integer: an optional sign and at least one digit. -/
def readInt64 : List Char → Except IntFault Int
  | [] => .error .empty
  | ['+'] => .error .invalidDigit
  | ['-'] => .error .invalidDigit
  | '+' :: rest => (readDigits IntRange.int64.most.toNat .tooLarge 0 rest).map Int.ofNat
  | '-' :: rest => (readDigits IntRange.int64.least.natAbs .tooSmall 0 rest).map fun n => -(n : Int)
  | rest => (readDigits IntRange.int64.most.toNat .tooLarge 0 rest).map Int.ofNat

end RowMapper.Decimal

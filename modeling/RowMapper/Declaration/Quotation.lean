import RowMapper.Text.Base16

/-!
# Quotations

Text between quotes in the source of a declaration.  It is a text, a string of bytes or a string
that ends with a null character, which differ in the characters they admit.  A quotation may have
escapes after backslashes; one with an `r` in front has none, and as many hash marks after its
closing quote as before its opening one.  The end of a line inside is one line feed, unless the
quotation is without escapes.
-/

namespace RowMapper.Declaration

/-- What is quoted. -/
inductive Quotation where
  | text
  | bytes
  /-- A string that ends with a null character. -/
  | terminated
  deriving DecidableEq, Repr

namespace Quotation

/-- Whether a character may stand in the quotation as it is. -/
def admits (c : Char) : Quotation → Bool
  | text => true
  | bytes => c.toNat < 128
  | terminated => c ≠ '\x00'

/-- Whether the quotation may hold a character that is written by two digits. -/
def admitsByte (n : Nat) : Quotation → Bool
  | text => n < 128
  | bytes => true
  | terminated => n ≠ 0

/-- Whether the quotation may hold a character that is written by its number. -/
def admitsNumber (n : Nat) : Quotation → Bool
  | text => n.isValidChar
  | bytes => false
  | terminated => n.isValidChar && n ≠ 0

/-- The number between two braces, and what follows them.  Underscores may stand after its first
digit. -/
def readNumber (source : List Char) : Option (Nat × List Char) :=
  let written := source.takeWhile (· ≠ '\x7d')
  let digits := written.filter (· ≠ '_')
  match source.drop written.length with
  | '\x7d' :: rest =>
    if written.head? ≠ some '_' ∧ digits ≠ [] ∧ digits.length ≤ 6 then
      (Base16.number? digits).map (·, rest)
    else none
  | _ => none

/-- The character of an escape after its backslash, and what follows it. -/
def readEscape (quotation : Quotation) : List Char → Option (Char × List Char)
  | 'n' :: rest => some ('\n', rest)
  | 'r' :: rest => some ('\r', rest)
  | 't' :: rest => some ('\t', rest)
  | '0' :: rest => if quotation = terminated then none else some ('\x00', rest)
  | '\\' :: rest => some ('\\', rest)
  | '\'' :: rest => some ('\'', rest)
  | '"' :: rest => some ('"', rest)
  | 'x' :: a :: b :: rest => do
    let n ← Base16.number? [a, b]
    if quotation.admitsByte n then some (Char.ofNat n, rest) else none
  | 'u' :: '\x7b' :: rest => do
    let (n, rest) ← readNumber rest
    if quotation.admitsNumber n then some (Char.ofNat n, rest) else none
  | _ => none

/-- What follows the blanks at the start of a line that was joined with the line before it. -/
def skipMargin : List Char → List Char
  | '\r' :: '\n' :: rest => skipMargin rest
  | c :: rest => if c = ' ' ∨ c = '\t' ∨ c = '\n' then skipMargin rest else c :: rest
  | [] => []

/-- The content of a quotation after its opening quote, and what follows it.  A backslash at the end
of a line joins the line with the next. -/
def readEscaped (quotation : Quotation) :
    (fuel : Nat) → List Char → Option (List Char × List Char)
  | 0, _ => none
  | _ + 1, [] => none
  | _ + 1, '"' :: rest => some ([], rest)
  | fuel + 1, '\\' :: '\n' :: rest | fuel + 1, '\\' :: '\r' :: '\n' :: rest =>
    quotation.readEscaped fuel (skipMargin rest)
  | fuel + 1, '\\' :: rest => do
    let (c, rest) ← quotation.readEscape rest
    let (content, rest) ← quotation.readEscaped fuel rest
    return (c :: content, rest)
  | fuel + 1, '\r' :: '\n' :: rest => do
    let (content, rest) ← quotation.readEscaped fuel rest
    return ('\n' :: content, rest)
  | fuel + 1, c :: rest => do
    if c = '\r' || !quotation.admits c then none
    let (content, rest) ← quotation.readEscaped fuel rest
    return (c :: content, rest)

/-- The content of a quotation without escapes, which ends with a quote and a number of hash marks,
and what follows it. -/
def readPlain (quotation : Quotation) (hashes : Nat) : List Char → Option (List Char × List Char)
  | [] => none
  | '\r' :: '\n' :: rest =>
    (quotation.readPlain hashes rest).map fun (content, rest) => ('\r' :: '\n' :: content, rest)
  | c :: rest =>
    if c = '"' ∧ rest.take hashes = List.replicate hashes '#' then some ([], rest.drop hashes)
    else if c = '\r' || !quotation.admits c then none
    else (quotation.readPlain hashes rest).map fun (content, rest) => (c :: content, rest)

/-- What is quoted, and the source after the letters in front of the opening quote, if an `r` is
among them. -/
def plainOpening? : List Char → Option (Quotation × List Char)
  | 'r' :: rest => some (text, rest)
  | 'b' :: 'r' :: rest => some (bytes, rest)
  | 'c' :: 'r' :: rest => some (terminated, rest)
  | _ => none

/-- What is quoted and its content, and what follows it; the outer option tells whether the source
starts with a quotation, the inner whether that ends. -/
def read? : List Char → Option (Option (Quotation × List Char × List Char))
  | '"' :: rest => some ((text.readEscaped (rest.length + 1) rest).map (text, ·))
  | 'b' :: '"' :: rest => some ((bytes.readEscaped (rest.length + 1) rest).map (bytes, ·))
  | 'c' :: '"' :: rest =>
    some ((terminated.readEscaped (rest.length + 1) rest).map (terminated, ·))
  | source => do
    let (quotation, rest) ← plainOpening? source
    let hashes := (rest.takeWhile (· = '#')).length
    match rest.drop hashes with
    | '"' :: rest =>
      some (if hashes ≤ 255 then (quotation.readPlain hashes rest).map (quotation, ·) else none)
    | _ => none

example : read? "\"a\\x41\\\r\n  b\"c".toList = some (some (text, ['a', 'A', 'b'], ['c'])) := by
  decide +kernel
example : read? "br#\"a\"b\"#c".toList = some (some (bytes, ['a', '"', 'b'], ['c'])) := by
  decide +kernel
example : read? "\"a".toList = some none := by decide +kernel

end Quotation

end RowMapper.Declaration

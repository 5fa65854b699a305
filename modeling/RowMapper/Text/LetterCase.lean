import RowMapper.Text.CharClass.Cased
import RowMapper.Text.CharClass.CaseIgnorable
import RowMapper.Text.LetterCase.Table

/-!
# Letter case

* `lowercase` — the lower case of a text over all of Unicode;
* `lowerAscii` — the lower case of the letters A to Z only;
* `equalIgnoringAsciiCase` — equality of names up to the case of A to Z.

Two characters need more than the table.  The dotted capital I becomes an i and a combining dot, and
a capital sigma that ends a word becomes a final sigma: a letter stands before it and none after
it, case-ignorable characters apart.
-/

namespace RowMapper.LetterCase

/-- The lower case of a character that is not a sigma in a word. -/
def lowerChar (c : Char) : List Char :=
  if c.toNat = 0x130 then ['i', Char.ofNat 0x307]
  else
    match runs.find? (·.covers c.toNat) with
    | some r => [Char.ofNat (c.toNat + r.offset).toNat]
    | none => [c]

/-- Whether the first character that is not case-ignorable is a cased letter. -/
def meetsLetter (s : List Char) : Bool :=
  match s.dropWhile CharClass.caseIgnorable.contains with
  | [] => false
  | c :: _ => CharClass.cased.contains c

/-- Lower case of `rest`, where `before` holds the characters in front of it, nearest first. -/
def lowerFrom (before : List Char) : List Char → List Char
  | [] => []
  | c :: rest =>
    (if c = 'Σ' then
      if meetsLetter before && !meetsLetter rest then ['ς'] else ['σ']
    else lowerChar c) ++ lowerFrom (c :: before) rest

/-- The lower case of a text. -/
def lowercase (s : String) : String :=
  String.ofList (lowerFrom [] s.toList)

/-- The lower case of a letter from A to Z; every other character as it is. -/
def lowerAscii (c : Char) : Char :=
  if 'A' ≤ c ∧ c ≤ 'Z' then Char.ofNat (c.toNat + 32) else c

/-- Equality of two names up to the case of the letters A to Z. -/
def equalIgnoringAsciiCase (a b : String) : Bool :=
  a.toList.map lowerAscii == b.toList.map lowerAscii

@[simp] theorem equalIgnoringAsciiCase_self (a : String) : equalIgnoringAsciiCase a a = true := by
  simp [equalIgnoringAsciiCase]

theorem equalIgnoringAsciiCase_iff {a b : String} :
    equalIgnoringAsciiCase a b = true ↔ a.toList.map lowerAscii = b.toList.map lowerAscii := by
  simp [equalIgnoringAsciiCase]

end RowMapper.LetterCase

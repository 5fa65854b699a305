/-!
# Doubled characters

A text between quotes writes the closing quote inside it twice, so that a reader can tell it from
the end of the text.

* `Doubled.encode` and `Doubled.decode` — the text with a character written twice, and back;
* `Doubled.decode_encode` — writing loses nothing.
-/

namespace RowMapper.Doubled

/-- The text with every `mark` written twice. -/
def encode (mark : Char) : List Char → List Char
  | [] => []
  | c :: rest => if c = mark then mark :: mark :: encode mark rest else c :: encode mark rest

/-- The text with every pair of `mark`s, taken from the left, written once. -/
def decode (mark : Char) : List Char → List Char
  | c :: d :: rest =>
    if c = mark ∧ d = mark then mark :: decode mark rest else c :: decode mark (d :: rest)
  | text => text

@[simp] theorem decode_cons_of_ne {mark c : Char} (h : c ≠ mark) (rest : List Char) :
    decode mark (c :: rest) = c :: decode mark rest := by
  cases rest <;> simp [decode, h]

@[simp] theorem decode_encode (mark : Char) (text : List Char) :
    decode mark (encode mark text) = text := by
  induction text with
  | nil => rfl
  | cons c rest ih => by_cases h : c = mark <;> simp [encode, decode, h, ih]

end RowMapper.Doubled

import RowMapper.Json.Numeral
import RowMapper.Text.Base16

/-!
# Reading JSON texts

`Json.parse?` reads a whole text.  It keeps the fields of an object as they stand, repeated ones
included, so that a reader that allows one field only can tell; `Json.read?` is the normalized value
that the text means.  Arrays and objects may be nested 127 deep.
-/

namespace RowMapper.Json

/-- Whether a character may stand between the tokens of a text. -/
def isBlank (c : Char) : Bool := c = ' ' || c = '\n' || c = '\t' || c = '\r'

/-- Skips the characters between two tokens. -/
def skipBlank (s : List Char) : List Char := s.dropWhile isBlank

/-- A text from which a step has taken at least one character. -/
abbrev Rest (s : List Char) := { r : List Char // r.length < s.length }

/-- Four digits of base sixteen. -/
def readUnit : (s : List Char) → Option (Nat × Rest s)
  | a :: b :: c :: d :: rest => do
    let a ← Base16.digit? a
    let b ← Base16.digit? b
    let c ← Base16.digit? c
    let d ← Base16.digit? d
    return (((a * 16 + b) * 16 + c) * 16 + d, ⟨rest, by simp; omega⟩)
  | _ => none

/-- The second half of a surrogate pair. -/
def readLowSurrogate : (s : List Char) → Option (Nat × Rest s)
  | '\\' :: 'u' :: s =>
    match readUnit s with
    | some (n, ⟨rest, shorter⟩) =>
      if 0xdc00 ≤ n ∧ n ≤ 0xdfff then some (n, ⟨rest, by simp; omega⟩) else none
    | none => none
  | _ => none

/-- The character of an escape by number.  Characters past U+FFFF take a surrogate pair, and half a
pair is no character. -/
def readNumbered (s : List Char) : Option (Char × Rest s) :=
  match readUnit s with
  | none => none
  | some (n, ⟨rest, shorter⟩) =>
    if 0xd800 ≤ n ∧ n ≤ 0xdbff then
      match readLowSurrogate rest with
      | some (low, ⟨after, less⟩) =>
        some (Char.ofNat (0x10000 + (n - 0xd800) * 0x400 + (low - 0xdc00)), ⟨after, by omega⟩)
      | none => none
    else if 0xdc00 ≤ n ∧ n ≤ 0xdfff then none
    else some (Char.ofNat n, ⟨rest, shorter⟩)

/-- The character that follows a backslash. -/
def readEscape : (s : List Char) → Option (Char × Rest s)
  | [] => none
  | c :: rest =>
    let plain (x : Char) : Option (Char × Rest (c :: rest)) := some (x, ⟨rest, by simp⟩)
    if c = '"' then plain '"'
    else if c = '\\' then plain '\\'
    else if c = '/' then plain '/'
    else if c = 'b' then plain '\x08'
    else if c = 'f' then plain '\x0c'
    else if c = 'n' then plain '\n'
    else if c = 'r' then plain '\r'
    else if c = 't' then plain '\t'
    else if c = 'u' then
      match readNumbered rest with
      | some (x, ⟨after, less⟩) => some (x, ⟨after, by simp; omega⟩)
      | none => none
    else none

/-- The rest of a string whose opening quote has been read. -/
def readString (s : List Char) : Option (List Char × List Char) :=
  match s with
  | [] => none
  | c :: rest =>
    if c = '"' then some ([], rest)
    else if c = '\\' then
      match readEscape rest with
      | some (x, ⟨after, _⟩) =>
        match readString after with
        | some (cs, tail) => some (x :: cs, tail)
        | none => none
      | none => none
    else if c < ' ' then none
    else
      match readString rest with
      | some (cs, tail) => some (c :: cs, tail)
      | none => none
termination_by s.length
decreasing_by all_goals simp; try omega

/-- A number. -/
def readNumber (s : List Char) : Option (Json × List Char) := do
  let (numeral, rest) ← Numeral.scan s
  let n ← numeral.number?
  return (.number n, rest)

mutual

/-- A value, in which arrays and objects are nested at most `depth` deep. -/
def readValue : (fuel depth : Nat) → List Char → Option (Json × List Char)
  | 0, _, _ => none
  | fuel + 1, depth, s =>
    match skipBlank s with
    | 'n' :: 'u' :: 'l' :: 'l' :: rest => some (.null, rest)
    | 't' :: 'r' :: 'u' :: 'e' :: rest => some (.bool true, rest)
    | 'f' :: 'a' :: 'l' :: 's' :: 'e' :: rest => some (.bool false, rest)
    | '"' :: rest => (readString rest).map fun (cs, rest) => (.string (String.ofList cs), rest)
    | '[' :: rest =>
      match depth with
      | 0 => none
      | depth + 1 =>
        match skipBlank rest with
        | ']' :: rest => some (.array [], rest)
        | rest => (readItems fuel depth rest).map fun (items, rest) => (.array items, rest)
    | '\x7b' :: rest =>
      match depth with
      | 0 => none
      | depth + 1 =>
        match skipBlank rest with
        | '\x7d' :: rest => some (.object [], rest)
        | rest => (readFields fuel depth rest).map fun (fields, rest) => (.object fields, rest)
    | rest => readNumber rest

/-- The items of an array up to its closing bracket. -/
def readItems : (fuel depth : Nat) → List Char → Option (List Json × List Char)
  | 0, _, _ => none
  | fuel + 1, depth, s =>
    match readValue fuel depth s with
    | none => none
    | some (item, rest) =>
      match skipBlank rest with
      | ']' :: rest => some ([item], rest)
      | ',' :: rest => (readItems fuel depth rest).map fun (items, rest) => (item :: items, rest)
      | _ => none

/-- The fields of an object up to its closing brace. -/
def readFields : (fuel depth : Nat) → List Char → Option (List (String × Json) × List Char)
  | 0, _, _ => none
  | fuel + 1, depth, s =>
    match skipBlank s with
    | '"' :: rest =>
      match readString rest with
      | none => none
      | some (name, rest) =>
        match skipBlank rest with
        | ':' :: rest =>
          match readValue fuel depth rest with
          | none => none
          | some (value, rest) =>
            match skipBlank rest with
            | '\x7d' :: rest => some ([(String.ofList name, value)], rest)
            | ',' :: rest =>
              (readFields fuel depth rest).map fun (fields, rest) =>
                ((String.ofList name, value) :: fields, rest)
            | _ => none
        | _ => none
    | _ => none

end

/-- How deep arrays and objects may be nested. -/
def maxDepth : Nat := 127

/-- Reads a whole text, with the fields of objects as they stand in it.  Between two nested calls of
the reader lies at least one character, so twice the length of the text is fuel enough. -/
def parse? (s : List Char) : Option Json :=
  match readValue (2 * s.length + 2) maxDepth s with
  | some (value, rest) => if (skipBlank rest).isEmpty then some value else none
  | none => none

/-- The value that a text means. -/
def read? (s : String) : Option Json := (parse? s.toList).map normalize

end RowMapper.Json

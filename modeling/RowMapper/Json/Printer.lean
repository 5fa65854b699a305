import RowMapper.Json
import RowMapper.Decimal.Shortest
import RowMapper.Text.Quoted

/-!
# Texts of JSON values

* `Json.write` — the compact text, without any blank;
* `Json.describe` — the form in which messages show a value, which names the kind of every node.
-/

namespace RowMapper.Json

/-- Double precision numbers have their exponent written from 1e16 on and below 1e-5. -/
def doubleStyle : DecimalStyle := ⟨16, -5, "+", .even⟩

/-- Single precision numbers have their exponent written from 1e13 on and below 1e-6. -/
def singleStyle : DecimalStyle := ⟨13, -6, "+", .even⟩

/-- A digit of base sixteen. -/
def hexDigit (n : Nat) : Char := Nat.digitChar n

/-- A character as it stands inside a string: the quote, the backslash and the controls below the
space are escaped. -/
def escape (c : Char) : List Char :=
  if c = '"' then ['\\', '"']
  else if c = '\\' then ['\\', '\\']
  else if c = '\x08' then ['\\', 'b']
  else if c = '\x0c' then ['\\', 'f']
  else if c = '\n' then ['\\', 'n']
  else if c = '\r' then ['\\', 'r']
  else if c = '\t' then ['\\', 't']
  else if c < ' ' then
    ['\\', 'u', '0', '0', hexDigit (c.toNat / 16), hexDigit (c.toNat % 16)]
  else [c]

/-- A string between its quotes. -/
def writeString (s : String) : List Char :=
  '"' :: s.toList.flatMap escape ++ ['"']

/-- The text of a number. -/
def writeNumber : JsonNumber → List Char
  | .integer n => Decimal.ofInt n
  | .double x => (x.write doubleStyle).toList

mutual

/-- The compact text of a value. -/
def write : Json → List Char
  | .null => ['n', 'u', 'l', 'l']
  | .bool true => ['t', 'r', 'u', 'e']
  | .bool false => ['f', 'a', 'l', 's', 'e']
  | .number n => writeNumber n
  | .string s => writeString s
  | .array items => '[' :: writeItems items ++ [']']
  | .object fields => '\x7b' :: writeFields fields ++ ['\x7d']

/-- The items of an array, with commas between them. -/
def writeItems : List Json → List Char
  | [] => []
  | [item] => write item
  | item :: next :: rest => write item ++ ',' :: writeItems (next :: rest)

/-- The fields of an object, with commas between them. -/
def writeFields : List (String × Json) → List Char
  | [] => []
  | [(name, value)] => writeString name ++ ':' :: write value
  | (name, value) :: next :: rest =>
    writeString name ++ ':' :: write value ++ ',' :: writeFields (next :: rest)

end

/-- The compact text of a value, as a string. -/
def text (value : Json) : String := String.ofList value.write

mutual

/-- The value as a message shows it. -/
def describe : Json → String
  | .null => "Null"
  | .bool b => "Bool(" ++ toString b ++ ")"
  | .number n => "Number(" ++ String.ofList (writeNumber n) ++ ")"
  | .string s => "String(" ++ Quoted.text s ++ ")"
  | .array items => "Array [" ++ describeItems items ++ "]"
  | .object fields => "Object \x7b" ++ describeFields fields ++ "\x7d"

/-- The items of an array as a message shows them. -/
def describeItems : List Json → String
  | [] => ""
  | [item] => describe item
  | item :: next :: rest => describe item ++ ", " ++ describeItems (next :: rest)

/-- The fields of an object as a message shows them. -/
def describeFields : List (String × Json) → String
  | [] => ""
  | [(name, value)] => Quoted.text name ++ ": " ++ describe value
  | (name, value) :: next :: rest =>
    Quoted.text name ++ ": " ++ describe value ++ ", " ++ describeFields (next :: rest)

end

end RowMapper.Json

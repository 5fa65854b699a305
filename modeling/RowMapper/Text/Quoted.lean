import RowMapper.Text.CharClass.Unprintable
import RowMapper.Text.CharClass.Extending

/-!
# Quoted text

Text between quotes as messages show it.  Backslashes, the quote itself and the usual control
characters get a backslash; unprintable characters and extending marks are written by number;
everything else stands as it is.
-/

namespace RowMapper.Quoted

/-- A character written by its number in base sixteen. -/
def byNumber (c : Char) : List Char :=
  ['\\', 'u', '\x7b'] ++ Nat.toDigits 16 c.toNat ++ ['\x7d']

/-- A character as it stands between two of the given quotes. -/
def escape (quote c : Char) : List Char :=
  if c = quote ∨ c = '\\' then ['\\', c]
  else if c = '\n' then ['\\', 'n']
  else if c = '\r' then ['\\', 'r']
  else if c = '\t' then ['\\', 't']
  else if c = '\x00' then ['\\', '0']
  else if CharClass.extending.contains c || CharClass.unprintable.contains c then byNumber c
  else [c]

/-- A text in double quotes. -/
def text (s : String) : String :=
  String.ofList ('"' :: s.toList.flatMap (escape '"') ++ ['"'])

/-- A character in single quotes. -/
def char (c : Char) : String :=
  String.ofList ('\'' :: escape '\'' c ++ ['\''])

example : text "a\"b'\n\x7f" = "\"a\\\"b'\\n\\u\x7b7f\x7d\"" := by decide +kernel
example : char '\'' = "'\\''" := by decide +kernel

end RowMapper.Quoted

import RowMapper.Text.CharClass.Blank

/-!
# Blanks and comments

What may stand between two tokens of a declaration.  A blank is white space or a mark that sets the
direction of writing.  A comment is a line after two slashes or stands between `/*` and `*/`, where
it may hold others.  A third slash, a second star or an exclamation mark makes it a remark, which
documents what it stands at or in and is not skipped; a fourth slash or a third star makes it a
plain comment again.
-/

namespace RowMapper.Declaration

/-- White space, or a mark that sets the direction of writing. -/
def isBlank (c : Char) : Bool := CharClass.blank.contains c || c = '\u200e' || c = '\u200f'

/-- A piece of source that is no token of its own. -/
inductive Comment where
  | plain
  /-- Documents what it stands at, or what it stands in. -/
  | remark (inner : Bool) (text : List Char)
  deriving DecidableEq, Repr

namespace Comment

/-- The text up to the end of its line, and what follows. -/
def splitLine : List Char → List Char × List Char
  | [] => ([], [])
  | '\n' :: rest => ([], rest)
  | '\r' :: '\n' :: rest => ([], rest)
  | c :: rest => (c :: (splitLine rest).1, (splitLine rest).2)

/-- The text up to the end of a comment in which `depth` others are open, and what follows. -/
def splitBlock : (depth : Nat) → List Char → Option (List Char × List Char)
  | _, [] => none
  | 0, '*' :: '/' :: rest => some ([], rest)
  | depth + 1, '*' :: '/' :: rest =>
    (splitBlock depth rest).map fun (text, rest) => ('*' :: '/' :: text, rest)
  | depth, '/' :: '*' :: rest =>
    (splitBlock (depth + 1) rest).map fun (text, rest) => ('/' :: '*' :: text, rest)
  | depth, c :: rest => (splitBlock depth rest).map fun (text, rest) => (c :: text, rest)

/-- Whether a carriage return stands without the end of a line. -/
def hasLoneReturn : List Char → Bool
  | [] => false
  | '\r' :: '\n' :: rest => hasLoneReturn rest
  | c :: rest => c = '\r' || hasLoneReturn rest

/-- A remark; it has no carriage returns but at the ends of lines. -/
def ofRemark (inner : Bool) (text rest : List Char) : Option (Comment × List Char) :=
  if hasLoneReturn text then none else some (remark inner text, rest)

/-- The comment that a text with a slash starts with, and what follows it; the outer option tells
whether there is a comment, the inner whether it ends. -/
def read? : List Char → Option (Option (Comment × List Char))
  | '/' :: '/' :: '!' :: rest =>
    let (text, rest) := splitLine rest
    some (ofRemark true text rest)
  | '/' :: '/' :: '/' :: '/' :: rest => some (some (plain, (splitLine rest).2))
  | '/' :: '/' :: '/' :: rest =>
    let (text, rest) := splitLine rest
    some (ofRemark false text rest)
  | '/' :: '/' :: rest => some (some (plain, (splitLine rest).2))
  | '/' :: '*' :: '*' :: '/' :: rest => some (some (plain, rest))
  | '/' :: '*' :: '*' :: '*' :: rest =>
    some ((splitBlock 0 ('*' :: '*' :: rest)).map fun (_, rest) => (plain, rest))
  | '/' :: '*' :: '*' :: rest =>
    some ((splitBlock 0 rest).bind fun (text, rest) => ofRemark false text rest)
  | '/' :: '*' :: '!' :: rest =>
    some ((splitBlock 0 rest).bind fun (text, rest) => ofRemark true text rest)
  | '/' :: '*' :: rest => some ((splitBlock 0 rest).map fun (_, rest) => (plain, rest))
  | _ => none

example : read? "/* a /* b */ c */d".toList = some (some (plain, ['d'])) := by decide +kernel
example : read? "/** a */".toList = some (some (remark false [' ', 'a', ' '], [])) := by
  decide +kernel
example : read? "//// a\nb".toList = some (some (plain, ['b'])) := by decide +kernel
example : read? "/* a".toList = some none := by decide +kernel

end Comment

end RowMapper.Declaration

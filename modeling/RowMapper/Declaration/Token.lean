import RowMapper.Declaration.Comment
import RowMapper.Declaration.Quotation
import RowMapper.Text.Quoted

/-!
# Tokens of declarations

The source of a declaration consists of words, literals and punctuation, with blanks and comments
between them.

* `Token.scan?` — the tokens of a source text; a text in which a literal, a comment or a bracket
  does not end has none;
* `Token.spelling` — a token as the source writes it.
-/

namespace RowMapper.Declaration

/-- A piece of the source text of a declaration.  Literals come with the way they are written. -/
inductive Token where
  /-- An identifier or a keyword. -/
  | word (s : String)
  /-- A text literal, by its content. -/
  | text (s spelling : String)
  /-- A literal that may have a sign in front of it. -/
  | number (spelling : String)
  /-- A literal of another kind. -/
  | literal (spelling : String)
  /-- Two colons. -/
  | path
  /-- A hyphen right before a `>`. -/
  | arrow
  /-- Any other character. -/
  | mark (c : Char)
  deriving DecidableEq, Repr

namespace Token

/-- A token as the source writes it. -/
def spelling : Token → String
  | word s => s
  | text _ spelling => spelling
  | number spelling => spelling
  | literal spelling => spelling
  | path => "::"
  | arrow => "->"
  | mark c => String.ofList [c]

/-- Whether a character starts a word. -/
def startsWord (c : Char) : Bool := c.isAlpha || c = '_' || (128 ≤ c.toNat && !isBlank c)

/-- Whether a character goes on with a word. -/
def inWord (c : Char) : Bool := startsWord c || c.isDigit

/-- The word at the start of a text, and what follows it. -/
def readWord? : List Char → Option (List Char × List Char)
  | c :: rest =>
    if startsWord c then some (c :: rest.takeWhile inWord, rest.dropWhile inWord) else none
  | [] => none

/-- What follows a literal: a word right after it is a suffix of it. -/
def skipSuffix (rest : List Char) : List Char := ((readWord? rest).map (·.2)).getD rest

/-- The text between two places of a source, the later of which is given by what follows it. -/
def spelled (source rest : List Char) : String :=
  String.ofList (source.take (source.length - rest.length))

/-- A number after its first digits, which may have a fraction.  A dot before a word or another dot
is none of its own. -/
def skipFraction (digits rest : List Char) : List Char :=
  match rest with
  | '.' :: more =>
    let another := match more with
      | c :: _ => c = '.' || startsWord c
      | [] => false
    if digits.all (fun c => c.isDigit || c = '_') && !another then more.dropWhile inWord else rest
  | _ => rest

/-- The tokens of a comment; a remark stands for an attribute with its text. -/
def ofComment : Comment → List Token
  | .plain => []
  | .remark inner content =>
    let content := String.ofList content
    mark '#' :: (if inner then [mark '!'] else []) ++
      [mark '[', word "doc", mark '=', text content (Quoted.text content), mark ']']

/-- A character in single quotes after its opening quote, and what follows it. -/
def skipCharacter (quotation : Quotation) : List Char → Option (List Char)
  | '\\' :: rest =>
    match quotation.readEscape rest with
    | some (_, '\'' :: rest) => some (skipSuffix rest)
    | _ => none
  | c :: '\'' :: rest => if quotation.admits c then some (skipSuffix rest) else none
  | _ => none

/-- Whether a quote before a text marks a name for a lifetime, which no other quote ends. -/
def isLifetime (source : List Char) : Bool :=
  let raw := ['r', '#'].isPrefixOf source
  match readWord? (if raw then source.drop 2 else source) with
  | some (_, '\'' :: _) => false
  | some (_, '#' :: _) => raw
  | some _ => true
  | none => false

/-- The word at the start of a text, which is a keyword used as a name if it has `r#` in front. -/
def readName? : List Char → Option (List Char × List Char)
  | 'r' :: '#' :: rest => do
    let (name, rest) ← readWord? rest
    if String.ofList name ∈ ["_", "super", "self", "Self", "crate"] then none
    return ('r' :: '#' :: name, rest)
  | source =>
    if ["br#", "cr#", "b'"].any (·.toList.isPrefixOf source) then none else readWord? source

/-- The characters that are tokens of their own. -/
def marks : List Char := "~!@#$%^&*-=+|;:,<.>/?()[]\x7b\x7d".toList

/-- The first token at the start of a text that is no blank and no comment, and what follows it. -/
def readToken (source : List Char) : Option (Token × List Char) :=
  match Quotation.read? source with
  | some none => none
  | some (some (quotation, content, rest)) =>
    let rest := skipSuffix rest
    let spelling := spelled source rest
    let token :=
      if quotation = .text then text (String.ofList content) spelling else literal spelling
    some (token, rest)
  | none =>
    match source with
    | ':' :: ':' :: rest => some (path, rest)
    | '-' :: '>' :: rest => some (arrow, rest)
    | '\'' :: rest =>
      if isLifetime rest then some (mark '\'', rest)
      else (skipCharacter .text rest).map fun rest => (literal (spelled source rest), rest)
    | 'b' :: '\'' :: rest =>
      (skipCharacter .bytes rest).map fun rest => (literal (spelled source rest), rest)
    | c :: rest =>
      if c.isDigit then
        let rest := skipFraction (source.takeWhile inWord) (source.dropWhile inWord)
        some (number (spelled source rest), rest)
      else if c ∈ marks then some (mark c, rest)
      else (readName? source).map fun (name, rest) => (word (String.ofList name), rest)
    | [] => none

/-- The tokens at the start of a text, and what follows them.  A blank and a plain comment have
none. -/
def read (source : List Char) : Option (List Token × List Char) :=
  match source with
  | [] => some ([], [])
  | c :: rest =>
    if isBlank c then some ([], rest)
    else
      match Comment.read? source with
      | some comment => comment.map fun (comment, rest) => (ofComment comment, rest)
      | none => (readToken source).map fun (token, rest) => ([token], rest)

/-- The tokens of a source text, with fuel for each of them. -/
def scanFrom : (fuel : Nat) → List Char → Option (List Token)
  | _, [] => some []
  | 0, _ => none
  | fuel + 1, source => do
    let (first, rest) ← read source
    return first ++ (← scanFrom fuel rest)

/-- The bracket that closes an open one. -/
def closing? : Char → Option Char
  | '(' => some ')'
  | '[' => some ']'
  | '\x7b' => some '\x7d'
  | _ => none

/-- The brackets that close others. -/
def closings : List Char := [')', ']', '\x7d']

/-- Whether every bracket has its partner, where some are to be closed. -/
def balanced : (expected : List Char) → List Token → Bool
  | expected, [] => expected.isEmpty
  | expected, mark c :: rest =>
    match closing? c with
    | some d => balanced (d :: expected) rest
    | none =>
      if c ∈ closings then expected.head? = some c && balanced expected.tail rest
      else balanced expected rest
  | expected, _ :: rest => balanced expected rest

/-- The tokens of a source text.  Each takes at least one character. -/
def scan? (source : String) : Option (List Token) :=
  (scanFrom source.toList.length source.toList).filter (balanced [])

/-- The tokens of a source text; none if it cannot be read. -/
def scan (source : String) : List Token := (scan? source).getD []

example : scan "a::b = r#\"c\"#" =
    [word "a", path, word "b", mark '=', text "c" "r#\"c\"#"] := by decide +kernel
example : scan? "(a" = none := by decide +kernel

end Token

end RowMapper.Declaration

import RowMapper.Declaration.Token

/-!
# Nested tokens

Tokens by the brackets that they stand in.  A `<` is a bracket if a `>` closes it before another
bracket closes, and else it is a token like any other.

* `Nested.ofTokens` — the nesting of tokens in which every bracket has its partner;
* `Nested.allTokens` — the tokens, in the order in which they are written.
-/

namespace RowMapper.Declaration

/-- A token, or all that a bracket holds. -/
inductive Nested where
  | token (t : Token)
  /-- What stands after a bracket, by this bracket, and before the one that closes it. -/
  | brackets (opening : Char) (content : List Nested)
  /-- What stands between a `<` and its `>`. -/
  | angles (content : List Nested)
  deriving Repr

namespace Nested

/-- The bracket that closes what is opened. -/
def closing (opening : Char) : Char := (Token.closing? opening).getD opening

mutual

/-- The tokens of a node in the order in which they are written. -/
def tokens : Nested → List Token
  | token t => [t]
  | brackets opening content =>
    .mark opening :: allTokens content ++ [.mark (closing opening)]
  | angles content => .mark '<' :: allTokens content ++ [.mark '>']

/-- The tokens of nodes in the order in which they are written. -/
def allTokens : List Nested → List Token
  | [] => []
  | node :: rest => tokens node ++ allTokens rest

end

/-- The nesting of the first tokens, while some brackets are open. -/
structure Open where
  /-- What stands after the innermost open bracket, latest first. -/
  inside : List Nested
  /-- The open brackets from the inside, each with what stands before it, latest first. -/
  outside : List (Char × List Nested)
  deriving Repr

namespace Open

/-- Another node. -/
def add (opened : Open) (node : Nested) : Open := { opened with inside := node :: opened.inside }

/-- The angles inside of all other brackets close nowhere, so they are tokens. -/
def settle (inside : List Nested) : List (Char × List Nested) → Open
  | ('<', before) :: outside => settle (inside ++ token (.mark '<') :: before) outside
  | outside => ⟨inside, outside⟩

/-- An angle closes. -/
def closeAngle (opened : Open) : Open :=
  match opened.outside with
  | ('<', before) :: outside => ⟨angles opened.inside.reverse :: before, outside⟩
  | _ => opened.add (token (.mark '>'))

/-- A bracket other than an angle closes. -/
def closeBracket (opened : Open) (bracket : Char) : Open :=
  match settle opened.inside opened.outside with
  | ⟨inside, (opening, before) :: outside⟩ =>
    ⟨brackets opening inside.reverse :: before, outside⟩
  | settled => settled.add (token (.mark bracket))

/-- The nesting with the next token. -/
def step (opened : Open) : Token → Open
  | .mark c =>
    if c = '<' || (Token.closing? c).isSome then ⟨[], (c, opened.inside) :: opened.outside⟩
    else if c = '>' then opened.closeAngle
    else if c ∈ Token.closings then opened.closeBracket c
    else opened.add (token (.mark c))
  | other => opened.add (token other)

end Open

/-- The nesting of tokens. -/
def ofTokens (tokens : List Token) : List Nested :=
  let opened := tokens.foldl Open.step ⟨[], []⟩
  (Open.settle opened.inside opened.outside).inside.reverse

example : ofTokens (Token.scan "a<(b >> c)>") matches
    [.token _, .angles [.brackets '(' [.token _, .token _, .token _, .token _]]] := rfl

end Nested

end RowMapper.Declaration

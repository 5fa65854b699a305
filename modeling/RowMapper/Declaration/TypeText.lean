import RowMapper.Declaration.Nested

/-!
# Texts of types

The type of a field is known by its text: its tokens, without what stands between them.  Where there
are several ways to write one type, the text has one of them:

* among arguments or parameters between angles, lifetimes come before all others, each with its own
  comma;
* a parameter without bounds has no colon, and an item without parameters has no angles;
* nothing but a name stands before arguments between parentheses.

A bound with `const`, a `dyn*` type, the `mut self` of a function pointer, and what a macro or an
attribute takes have no such ways.  They keep their tokens as they are written.

* `TypeText.arranged` — the tokens of a type in the order of its text;
* `TypeText.ofSource` — the text of a type.
-/

namespace RowMapper.Declaration.TypeText

/-- What nodes write. -/
inductive Content where
  | types
  | expressions
  /-- Names that a list between angles introduces, with their bounds. -/
  | parameters
  deriving DecidableEq, Repr

/-- How far nodes keep their tokens as they are written. -/
inductive Keeping where
  | none
  /-- To the end of a bound. -/
  | bound
  /-- To the end of a type. -/
  | type
  deriving DecidableEq, Repr

/-- Whether a node stands after what keeps its tokens. -/
def Keeping.endsAt (keeping : Keeping) : Nested → Bool
  | .token (.mark c) => c ∈ [',', ';', '='] || (c = '+' && keeping = .bound)
  | .brackets opening _ => opening = '\x7b'
  | _ => false

/-! ### What nodes stand for

The tokens before a node are given latest first. -/

/-- Whether a bound starts after tokens. -/
def boundStarts : (earlier : List Token) → Bool
  | .word w :: _ => w ∈ ["impl", "dyn"]
  | .mark c :: _ => c ∈ ['+', ':']
  | _ => false

/-- Whether a bound that starts with nodes holds under `const`. -/
def isConst : List Nested → Bool
  | .token (.word "const") :: .brackets '\x7b' _ :: _ => false
  | .token (.word "const") :: _ | .token (.mark '~') :: _ => true
  | .brackets '[' [.token (.word "const")] :: _ => true
  | _ => false

/-- Whether a bound that starts with nodes holds under `const`, which a binder may precede. -/
def isConstBound : List Nested → Bool
  | .token (.word "for") :: .angles _ :: rest => isConst rest
  | nodes => isConst nodes

/-- Whether a type after tokens ends at a plus. -/
def endsAtPlus : (earlier : List Token) → Bool
  | .mark '&' :: _ | .arrow :: _ => true
  | .word w :: earlier => w ∈ ["mut", "const", "as"] || earlier.head? = some (.mark '\'')
  | _ => false

/-- How far nodes after tokens keep their tokens from here on. -/
def keepingFrom (earlier : List Token) : List Nested → Keeping
  | .token (.word "dyn") :: .token (.mark '*') :: _ =>
    if endsAtPlus earlier then .bound else .type
  | .brackets '(' content :: _ =>
    if boundStarts earlier && isConstBound content then .bound else .none
  | nodes => if boundStarts earlier && isConstBound nodes then .bound else .none

/-- How far the nodes between parentheses after tokens keep their tokens. -/
def keepingInside : (earlier : List Token) → List Nested → Keeping
  | .word "fn" :: _, .token (.word "mut") :: .token (.word "self") :: _ => .type
  | _, _ => .none

/-- Whether a bracket after tokens holds what a macro or an attribute takes. -/
def takesTokens (earlier : List Token) (opening : Char) (content : List Nested) : Bool :=
  let assigns := content.any fun
    | .token (.mark '=') => true
    | _ => false
  match earlier with
  | .mark '!' :: .word _ :: _ | .word _ :: .mark '!' :: .word "macro_rules" :: _ => true
  | .mark '#' :: _ | .mark '!' :: .mark '#' :: _ => opening = '[' && !assigns
  | _ => false

/-- Whether nodes start with arguments between parentheses. -/
def startsArguments : List Nested → Bool
  | .brackets '(' _ :: _ => true
  | _ => false

/-- Whether nodes start with an empty list and arguments between parentheses. -/
def startsEmptyList : List Nested → Bool
  | .angles [] :: .token .path :: rest | .angles [] :: rest => startsArguments rest
  | _ => false

/-- Whether the first of the nodes stands between a name and its arguments between parentheses. -/
def isSuperfluous : List Nested → Bool
  | .token .path :: rest => startsArguments rest || startsEmptyList rest
  | nodes => startsEmptyList nodes

/-- What a list between angles is. -/
inductive ListKind where
  | arguments
  /-- The parameters of an item. -/
  | parameters
  /-- The parameters of a bound or a function pointer. -/
  | binder
  deriving DecidableEq, Repr

/-- What a list between angles after tokens is. -/
def ListKind.after : (earlier : List Token) → Content → ListKind
  | .word "for" :: _, _ => .binder
  | .word "impl" :: _, .expressions => .parameters
  | .word _ :: .word item :: _, .expressions =>
    if item ∈ ["fn", "struct", "enum", "union", "trait", "type"] then .parameters else .arguments
  | _, _ => .arguments

/-- What stands in a list between angles after tokens. -/
def contentOfList (earlier : List Token) (content : Content) : Content :=
  match ListKind.after earlier content, content with
  | .arguments, .expressions => if earlier.head? = some .path then .types else .expressions
  | .arguments, _ => .types
  | _, _ => .parameters

/-- What stands inside of a bracket other than an angle. -/
def contentOfBrackets (opening : Char) : Content → Content
  | .expressions => .expressions
  | _ => if opening = '\x7b' then .expressions else .types

/-! ### The order of the text -/

/-- Whether a part of a list between angles is a lifetime, maybe with bounds. -/
def isLifetime : List Token → Bool
  | .mark '\'' :: .word _ :: rest => rest.head?.all (· ∈ [.mark ',', .mark ':'])
  | _ => false

/-- The parts of a list with the lifetimes in front of the others, and with a comma between both. -/
def lifetimesFirst (parts : List (List Token)) : List Token :=
  let lifetimes := (parts.filter isLifetime).flatten
  let others := (parts.filter (!isLifetime ·)).flatten
  let comma := !others.isEmpty && !lifetimes.isEmpty && lifetimes.getLast? ≠ some (.mark ',')
  lifetimes ++ (if comma then [.mark ','] else []) ++ others

/-- A list between angles, by its parts. -/
def angleList : ListKind → List (List Token) → List Token
  | .binder, parts => .mark '<' :: parts.flatten ++ [.mark '>']
  | .arguments, parts => .mark '<' :: lifetimesFirst parts ++ [.mark '>']
  | .parameters, parts =>
    if parts.flatten.isEmpty then [] else .mark '<' :: lifetimesFirst parts ++ [.mark '>']

/-- Whether a colon before nodes has no bounds after it. -/
def lacksBounds : List Nested → Bool
  | [] | .token (.mark ',') :: _ | .token (.mark '=') :: _ => true
  | _ => false

/-- More tokens in front of the first of some parts. -/
def intoFirst (tokens : List Token) : List (List Token) → List (List Token)
  | [] => [tokens]
  | part :: parts => (tokens ++ part) :: parts

mutual

/-- The tokens of a node after others in the order of the text. -/
def arrangedNode (content : Content) (earlier : List Token) : Nested → List Token
  | .token t => [t]
  | .brackets opening nodes =>
    let inside :=
      if takesTokens earlier opening nodes then Nested.allTokens nodes
      else
        let keeping := if opening = '(' then keepingInside earlier nodes else .none
        (arrangedParts (contentOfBrackets opening content) keeping [] nodes).flatten
    .mark opening :: inside ++ [.mark (Nested.closing opening)]
  | .angles nodes =>
    angleList (.after earlier content)
      (arrangedParts (contentOfList earlier content) .none [] nodes)

/-- The tokens of nodes after others in the order of the text.  A comma ends each part but the
last. -/
def arrangedParts (content : Content) (keeping : Keeping) (earlier : List Token) :
    List Nested → List (List Token)
  | [] => [[]]
  | node :: rest =>
    let keeping := if keeping.endsAt node then .none else keeping
    let keeping := if keeping = .none then keepingFrom earlier (node :: rest) else keeping
    let omitted := keeping = .none &&
      match node with
      | .token (.mark ':') => content = .parameters && lacksBounds rest
      | .token .path | .angles _ =>
        content ≠ .expressions && earlier.head? ≠ some (.word "for") &&
          isSuperfluous (node :: rest)
      | _ => false
    let tokens :=
      if omitted then [] else if keeping = .none then arrangedNode content earlier node
      else node.tokens
    match node with
    | .token (.mark ',') => tokens :: arrangedParts content .none [] rest
    | .token (.mark ';') =>
      intoFirst tokens (arrangedParts .expressions keeping [] rest)
    | _ => intoFirst tokens (arrangedParts content keeping (node.tokens.reverse ++ earlier) rest)

end

/-- The tokens of a type in the order of its text. -/
def arranged (tokens : List Token) : List Token :=
  (arrangedParts .types .none [] (Nested.ofTokens tokens)).flatten

/-- The text of a type, without spaces in its literals. -/
def ofSource (source : String) : String :=
  let tokens := arranged (Token.scan source)
  String.ofList ((tokens.flatMap (·.spelling.toList)).filter (· ≠ ' '))

example : ofSource "Option< /* a */ String >" = "Option<String>" := by decide +kernel
example : ofSource "Vec<A<u8, 'a>>" = "Vec<A<'a,u8,>>" := by decide +kernel
example : ofSource "impl const A<u8, 'a> + A<u8, 'a>" = "implconstA<u8,'a>+A<'a,u8,>" := by
  decide +kernel
example : ofSource "dyn for<'a:> Fn::(&'a A<u8, 'a>) -> [B; a!(<u8, 'b>)]" =
    "dynfor<'a>Fn(&'aA<'a,u8,>)->[B;a!(<u8,'b>)]" := by decide +kernel

end RowMapper.Declaration.TypeText

import RowMapper.Declaration.Token

/-!
# Attributes

A declaration and its fields carry attributes of the form `entity(marker, marker = literal, …)`.
Markers are read from left to right, and the first one that cannot be read is the error.

* `Fault` — what may be wrong with a declaration;
* `Attribute.tokens`, `splitAttributes` — attributes as tokens, also those in front of a name;
* `arguments?` — the tokens between the parentheses of an attribute for entities;
* `readMarkers` — the markers of a vocabulary.
-/

namespace RowMapper.Declaration

/-- What may be wrong with a declaration. -/
inductive Fault where
  /-- The source has no tokens. -/
  | unreadable
  | notStruct
  | unnamedFields
  /-- The attribute has no parentheses. -/
  | bareAttribute
  /-- The attribute has a value in place of parentheses. -/
  | assignedAttribute
  | literalMarker
  | strayMarker
  /-- The markers end where one has to follow. -/
  | missingMarker
  /-- A word has to follow two colons. -/
  | missingWord (atEnd : Bool)
  | unsupportedTypeMarker
  | unsupportedFieldMarker
  | expectedAssignment
  | expectedText (atEnd : Bool)
  | expectedBool (atEnd : Bool)
  | expectedComma
  | keyConflict
  | unknownSort
  deriving DecidableEq, Repr

/-- A message about the next token, or about the lack of one. -/
def Fault.located (atEnd : Bool) (message : String) : String :=
  if atEnd then "unexpected end of input, " ++ message else message

/-- The wording of a fault. -/
def Fault.message : Fault → String
  | unreadable => "cannot parse string into token stream"
  | notStruct => "`Entity` can only be derived for structs"
  | unnamedFields => "`Entity` requires named fields"
  | bareAttribute => "expected attribute arguments in parentheses: #[entity(...)]"
  | assignedAttribute => "expected parentheses: #[entity(...)]"
  | literalMarker => "unexpected literal in nested attribute, expected ident"
  | strayMarker => "unexpected token in nested attribute, expected ident"
  | missingMarker => located true "expected nested attribute"
  | missingWord atEnd => located atEnd "expected ident"
  | unsupportedTypeMarker => "unsupported entity property"
  | unsupportedFieldMarker => "unsupported field property"
  | expectedAssignment => "expected `=`"
  | expectedText atEnd => located atEnd "expected string literal"
  | expectedBool atEnd => located atEnd "expected boolean literal"
  | expectedComma => "expected `,`"
  | keyConflict => "a property cannot be both `key` and `explicit_key`"
  | unknownSort => "`default_sort` must name a field of the struct"

/-- A literal after a marker. -/
inductive Literal where
  | text (s : String)
  | bool (b : Bool)
  | integer (n : Int)
  deriving DecidableEq, Repr

/-- The tokens of a literal. -/
def Literal.tokens : Literal → List Token
  | text s => [.text s (Quoted.text s)]
  | bool b => [.word (if b then "true" else "false")]
  | integer n =>
    let digits := Token.number (toString n.natAbs)
    if n < 0 then [.mark '-', digits] else [digits]

/-- An attribute of a declaration or a field. -/
inductive Attribute where
  /-- An attribute for entities, by its markers and their literals. -/
  | markers (items : List (String × Option Literal))
  /-- The source text of any attribute. -/
  | source (text : String)
  deriving DecidableEq, Repr

/-- The source texts in an attribute. -/
def Attribute.sources : Attribute → List String
  | markers items => items.map (·.1)
  | source text => [text]

/-- The tokens of a marker with its literal. -/
def markerTokens : String × Option Literal → List Token
  | (name, literal) =>
    Token.scan name ++
      match literal with
      | some literal => .mark '=' :: literal.tokens
      | none => []

/-- The tokens of an attribute. -/
def Attribute.tokens : Attribute → List Token
  | markers items =>
    [.word "entity", .mark '('] ++
      ((items.map markerTokens).intersperse [.mark ',']).flatten ++ [.mark ')']
  | source text => Token.scan text

/-- The tokens before the bracket that closes an attribute, inside of `depth` others. -/
def untilClosed : (depth : Nat) → List Token → List Token
  | _, [] => []
  | depth, token :: rest =>
    if token ∈ [.mark '(', .mark '[', .mark '\x7b'] then token :: untilClosed (depth + 1) rest
    else if token ∈ [.mark ')', .mark ']', .mark '\x7d'] then
      match depth with
      | 0 => []
      | depth + 1 => token :: untilClosed depth rest
    else token :: untilClosed depth rest

/-- The attributes that stand in front of other tokens, and these tokens. -/
def splitAttributes : List Token → List (List Token) × List Token
  | .mark '#' :: .mark '[' :: rest =>
    let first := untilClosed 0 rest
    let (others, rest) := splitAttributes (rest.drop (first.length + 1))
    (first :: others, rest)
  | rest => ([], rest)
  termination_by tokens => tokens.length
  decreasing_by simp; omega

/-- The tokens between the parentheses of an attribute; none if it is not for entities. -/
def arguments? : List Token → Except Fault (Option (List Token))
  | [.word "entity"] => .error .bareAttribute
  | .word "entity" :: .mark '=' :: _ => .error .assignedAttribute
  | .word "entity" :: .mark c :: rest =>
    .ok (if (Token.closing? c).isSome then some (untilClosed 0 rest) else none)
  | _ => .ok none

/-- How a marker is written, and what it means. -/
inductive Form (α : Type) where
  /-- Without a literal. -/
  | flag (meaning : α)
  | text (meaning : String → α)
  | bool (meaning : Bool → α)

/-- What may follow a token. -/
abbrev Rest (tokens : List Token) := { rest : List Token // rest.length ≤ tokens.length }

/-- The meaning of a marker whose name is read, and what follows. -/
def Form.read {α : Type} (tokens : List Token) : Form α → Except Fault (α × Rest tokens)
  | flag meaning => .ok (meaning, ⟨tokens, Nat.le_refl _⟩)
  | text meaning =>
    match tokens with
    | .mark '=' :: .text s _ :: rest => .ok (meaning s, ⟨rest, by simp; omega⟩)
    | .mark '=' :: rest => .error (.expectedText rest.isEmpty)
    | _ => .error .expectedAssignment
  | bool meaning =>
    match tokens with
    | .mark '=' :: .word "true" :: rest => .ok (meaning true, ⟨rest, by simp; omega⟩)
    | .mark '=' :: .word "false" :: rest => .ok (meaning false, ⟨rest, by simp; omega⟩)
    | .mark '=' :: rest => .error (.expectedBool rest.isEmpty)
    | _ => .error .expectedAssignment

/-- What follows a path of words after its first word, and whether the path goes on. -/
def readPath : (tokens : List Token) → Except Fault (Bool × Rest tokens)
  | .path :: .word _ :: rest => do
    let (_, rest) ← readPath rest
    return (true, ⟨rest.val, by have := rest.property; simp; omega⟩)
  | .path :: rest => .error (.missingWord rest.isEmpty)
  | rest => .ok (false, ⟨rest, Nat.le_refl _⟩)

/-- The name of the next marker, and what follows.  A path of several words has no name. -/
def readName : (tokens : List Token) →
    Except Fault (Option String × { rest : List Token // rest.length < tokens.length })
  | .word name :: rest => do
    let (long, rest) ← readPath rest
    return (if long then none else some name,
      ⟨rest.val, by have := rest.property; simp; omega⟩)
  | .path :: .word _ :: rest => do
    let (_, rest) ← readPath rest
    return (none, ⟨rest.val, by have := rest.property; simp; omega⟩)
  | [] | [.path] => .error .missingMarker
  | .text .. :: _ | .number _ :: _ | .literal _ :: _ | .mark '-' :: .number _ :: _
  | .path :: .text .. :: _ | .path :: .number _ :: _ | .path :: .literal _ :: _
  | .path :: .mark '-' :: .number _ :: _ =>
    .error .literalMarker
  | _ => .error .strayMarker

/-- The markers of a vocabulary that tokens write, with commas between them and after them. -/
def readMarkers {α : Type} (vocabulary : String → Option (Form α)) (unsupported : Fault)
    (tokens : List Token) : Except Fault (List α) := do
  let (name, ⟨rest, _⟩) ← readName tokens
  match name.bind vocabulary with
  | none => .error unsupported
  | some form =>
    let (meaning, ⟨rest, _⟩) ← form.read rest
    match _ : rest with
    | [] | [.mark ','] => return [meaning]
    | .mark ',' :: next :: others =>
      let meanings ← readMarkers vocabulary unsupported (next :: others)
      return meaning :: meanings
    | _ => .error .expectedComma
  termination_by tokens.length
  decreasing_by
    subst_vars
    simp_all only [List.length_cons]
    omega

/-- The markers of an attribute; none if it is not for entities. -/
def readAttribute {α : Type} (vocabulary : String → Option (Form α)) (unsupported : Fault)
    (tokens : List Token) : Except Fault (List α) := do
  match ← arguments? tokens with
  | none | some [] => return []
  | some tokens => readMarkers vocabulary unsupported tokens

end RowMapper.Declaration

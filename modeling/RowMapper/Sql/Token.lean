import RowMapper.Binding
import RowMapper.Text.Doubled

/-!
# SQL tokens

Statements are lists of tokens.  Only `Style.write` makes text of them, so a bound value can reach a
statement in one way: as a placeholder.

* `Ident` — the name of a table or column, quoted or bare;
* `Token` — words of SQL, names, text literals and placeholders with their values;
* `Style` — how a dialect quotes names, marks placeholders and cuts a window out of a result;
* `Style.write` and `values` — the text of a list of tokens, and the values of its placeholders;
* `Query` — text and data, in the order of the placeholders.
-/

namespace RowMapper.Sql

/-- The name of a table or column. -/
structure Ident where
  name : String
  /-- Whether the name is written without quotes. -/
  bare : Bool
  deriving DecidableEq, Repr

/-- A name that is written between quotes. -/
def Ident.quoted (name : String) : Ident := ⟨name, false⟩

/-- A name that is written as it is. -/
def Ident.plain (name : String) : Ident := ⟨name, true⟩

/-- The characters around a quoted name. -/
structure QuoteMarks where
  left : Char
  right : Char
  deriving DecidableEq, Repr

/-- The name between quotes; the closing quote inside the name is written twice. -/
def QuoteMarks.enclose (marks : QuoteMarks) (name : List Char) : List Char :=
  marks.left :: (Doubled.encode marks.right name ++ [marks.right])

/-- The text of a name. -/
def Ident.write (marks : QuoteMarks) (ident : Ident) : List Char :=
  if ident.bare then ident.name.toList else marks.enclose ident.name.toList

/-- The text of a literal: between single quotes, which are written twice inside. -/
def writeLiteral (text : List Char) : List Char := QuoteMarks.enclose ⟨'\'', '\''⟩ text

/-- A piece of a statement. -/
inductive Token where
  /-- Words and punctuation of SQL, with their blanks. -/
  | text (s : String)
  | name (ident : Ident)
  | literal (s : String)
  | param (value : Value)

/-- The shape of the clause that restricts a SELECT to a window of its rows. -/
inductive Paging where
  /-- `LIMIT size OFFSET offset`. -/
  | limitOffset
  /-- `OFFSET offset ROWS FETCH NEXT size ROWS ONLY`. -/
  | offsetFetch
  /-- `ROWS first TO last`, counted from one. -/
  | rowsTo
  /-- No clause: rows are numbered in a subquery. -/
  | rowNumber
  deriving DecidableEq, Repr

namespace Paging

/-- The name of the shape. -/
def name : Paging → String
  | limitOffset => "LimitOffset"
  | offsetFetch => "OffsetFetch"
  | rowsTo => "RowsTo"
  | rowNumber => "RowNumber"

/-- The shape of a name. -/
def ofName? (name : String) : Option Paging :=
  [limitOffset, offsetFetch, rowsTo, rowNumber].find? (·.name == name)

end Paging

/-- How a dialect writes statements. -/
structure Style where
  marks : QuoteMarks
  /-- What a placeholder starts with. -/
  placeholder : String
  /-- Whether placeholders carry their number, counted from one. -/
  numbered : Bool
  paging : Paging
  deriving DecidableEq, Repr

namespace Style

/-- The text of the placeholder with a number. -/
def mark (style : Style) (number : Nat) : List Char :=
  style.placeholder.toList ++ if style.numbered then Decimal.digits number else []

/-- The text of tokens, where `number` is that of the next placeholder. -/
def writeFrom (style : Style) (number : Nat) : List Token → List Char
  | [] => []
  | .text s :: rest => s.toList ++ style.writeFrom number rest
  | .name ident :: rest => ident.write style.marks ++ style.writeFrom number rest
  | .literal s :: rest => writeLiteral s.toList ++ style.writeFrom number rest
  | .param _ :: rest => style.mark number ++ style.writeFrom (number + 1) rest

/-- The text of a statement. -/
def write (style : Style) (tokens : List Token) : String := String.ofList (style.writeFrom 1 tokens)

end Style

/-- The values of the placeholders, in the order of the text. -/
def values : List Token → List Value
  | [] => []
  | .param value :: rest => value :: values rest
  | _ :: rest => values rest

@[simp] theorem values_append (a b : List Token) : values (a ++ b) = values a ++ values b := by
  induction a with
  | nil => rfl
  | cons t rest ih => cases t <;> simp [values, ih]

/-- Lists of tokens with a separator between them. -/
def separated (separator : String) : List (List Token) → List Token
  | [] => []
  | [tokens] => tokens
  | tokens :: next :: rest => tokens ++ .text separator :: separated separator (next :: rest)

/-- A statement with the data of its placeholders. -/
structure Query where
  sql : String
  params : List Datum
  deriving DecidableEq, Repr

namespace Query

/-- Text without placeholders. -/
def raw (sql : String) : Query := ⟨sql, []⟩

/-- Text that is already written, with fresh values for its placeholders. -/
def withValues (sql : String) (values : List Value) : Except Error Query := do
  return ⟨sql, ← Value.toData values⟩

/-- The query that a list of tokens is; it fails on the first value that no driver can bind. -/
def build (style : Style) (tokens : List Token) : Except Error Query :=
  withValues (style.write tokens) (values tokens)

end Query

end RowMapper.Sql

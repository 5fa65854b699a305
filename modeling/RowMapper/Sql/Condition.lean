import RowMapper.Sql.Token

/-!
# Conditions

A `Condition` is what stands after `WHERE`.  Its tokens put parentheses wherever the tree needs
them: `AND` binds tighter than `OR`, both group from the left, and text of unknown inner shape is
always kept together.
-/

namespace RowMapper.Sql

/-- What joins two conditions. -/
inductive Connective where
  | and
  | or
  deriving DecidableEq, Repr

/-- The connective with its blanks. -/
def Connective.word : Connective → String
  | .and => " AND "
  | .or => " OR "

/-- A condition on a row. -/
inductive Condition where
  | compare (column : Ident) (comparison : Comparison) (value : Value)
  | isNull (column : Ident)
  | isNotNull (column : Ident)
  | oneOf (column : Ident) (values : List Value)
  | noneOf (column : Ident) (values : List Value)
  | like (column : Ident) (pattern : String) (escape : Option Char)
  /-- SQL text as it is. -/
  | raw (sql : String)
  | join (connective : Connective) (left right : Condition)

namespace Condition

/-- The values of a list, between parentheses. -/
def listTokens (values : List Value) : List Token :=
  .text "(" :: separated ", " (values.map fun value => [.param value]) ++ [.text ")"]

/-- A comparison of two numbers, which stands for a constant condition. -/
def constantTokens (left right : Int32) : List Token :=
  [.param (.int (some left)), .text " = ", .param (.int (some right))]

/-- Whether a condition stands between parentheses as an operand of `outer`.  Only a left operand
with the same connective goes without. -/
def enclosedIn (outer : Connective) (leftOperand : Bool) : Condition → Bool
  | raw _ => true
  | join inner _ _ => !(leftOperand && inner == outer)
  | _ => false

/-- Tokens between parentheses, if they are needed. -/
def enclose (needed : Bool) (tokens : List Token) : List Token :=
  if needed then .text "(" :: tokens ++ [.text ")"] else tokens

/-- The character of an `ESCAPE` clause, which has one byte: of a larger number the lowest byte is
taken. -/
def escapeByte (c : Char) : Char := Char.ofNat (c.toNat % 256)

/-- The tokens of a condition.  Membership of the empty list is written as a comparison of two
numbers. -/
def tokens : Condition → List Token
  | compare column comparison value =>
    [.name column, .text (" " ++ comparison.sign ++ " "), .param value]
  | isNull column => [.name column, .text " IS NULL"]
  | isNotNull column => [.name column, .text " IS NOT NULL"]
  | oneOf _ [] => constantTokens 1 2
  | oneOf column values => .name column :: .text " IN " :: listTokens values
  | noneOf _ [] => constantTokens 1 1
  | noneOf column values => .name column :: .text " NOT IN " :: listTokens values
  | like column pattern escape =>
    .name column :: .text " LIKE " :: .param (.string (some pattern)) ::
      match escape with
      | none => []
      | some c => [.text " ESCAPE ", .literal (String.singleton (escapeByte c))]
  | raw sql => [.text sql]
  | join connective left right =>
    enclose (left.enclosedIn connective true) left.tokens ++ .text connective.word ::
      enclose (right.enclosedIn connective false) right.tokens

/-- Conditions joined from the left; `none` if there are none. -/
def joinAll? (connective : Connective) : List Condition → Option Condition
  | [] => none
  | first :: rest => some (rest.foldl (join connective) first)

end Condition

/-- The clause that keeps the rows on which all conditions hold. -/
def whereTokens (conditions : List Condition) : List Token :=
  match Condition.joinAll? .and conditions with
  | none => []
  | some condition => .text " WHERE " :: condition.tokens

end RowMapper.Sql

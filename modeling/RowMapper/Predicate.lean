import RowMapper.Comparison
import RowMapper.Value

/-!
# Predicates

A `Predicate` is a filter over the properties of an entity, as a tree that a caller builds.  The
tree may hold more than can be turned into SQL: `RowMapper.Filter` says which shapes can.

* `BinaryOp` and `Method` — the operators and methods of the tree;
* `Predicate` — the tree, with the combinators that callers use;
* `Predicate.kind` and `Predicate.display` — a node and a tree as messages show them.
-/

namespace RowMapper

/-- An operator with two operands. -/
inductive BinaryOp where
  | and
  | or
  | compare (comparison : Comparison)
  | add
  | sub
  | mul
  | div
  | mod
  deriving DecidableEq, Repr

namespace BinaryOp

/-- The comparison that the operator is, if it is one. -/
def comparison? : BinaryOp → Option Comparison
  | compare comparison => some comparison
  | _ => none

/-- The operator that says the same of swapped operands; only comparisons change. -/
def flip : BinaryOp → BinaryOp
  | compare comparison => compare comparison.flip
  | op => op

@[simp] theorem flip_flip (op : BinaryOp) : op.flip.flip = op := by cases op <;> simp [flip]

/-- The name of the operator in messages. -/
def name : BinaryOp → String
  | and => "And"
  | or => "Or"
  | compare comparison => comparison.name
  | add => "Add"
  | sub => "Sub"
  | mul => "Mul"
  | div => "Div"
  | mod => "Mod"

/-- All operators. -/
def all : List BinaryOp := [and, or] ++ Comparison.all.map compare ++ [add, sub, mul, div, mod]

/-- The operator of a name. -/
def ofName? (name : String) : Option BinaryOp := all.find? (·.name == name)

end BinaryOp

/-- A method of a node. -/
inductive Method where
  | startsWith
  | endsWith
  /-- Part of a text, or member of a list. -/
  | contains
  | equals
  | toUpper
  | toLower
  | trim
  deriving DecidableEq, Repr

/-- The name of the method in messages. -/
def Method.name : Method → String
  | .startsWith => "StartsWith"
  | .endsWith => "EndsWith"
  | .contains => "Contains"
  | .equals => "Equals"
  | .toUpper => "ToUpper"
  | .toLower => "ToLower"
  | .trim => "Trim"

/-- The method of a name. -/
def Method.ofName? (name : String) : Option Method :=
  [startsWith, endsWith, contains, equals, toUpper, toLower, trim].find? (·.name == name)

/-- A filter over the properties of an entity. -/
inductive Predicate where
  /-- A property, by name. -/
  | column (property : String)
  | constant (value : Value)
  | list (values : List Value)
  | binary (op : BinaryOp) (left right : Predicate)
  | not (operand : Predicate)
  | call (method : Method) (target : Predicate) (args : List Predicate)
  /-- A type conversion, which has no effect in SQL. -/
  | convert (operand : Predicate)

namespace Predicate

/-- The node below all type conversions. -/
def unwrap : Predicate → Predicate
  | convert operand => operand.unwrap
  | node => node

/-- The kind of a node in messages. -/
def kind : Predicate → String
  | column _ => "Column"
  | constant _ => "Constant"
  | list _ => "List"
  | binary op _ _ => "Binary(" ++ op.name ++ ")"
  | not _ => "Not"
  | call method _ _ => "Call(" ++ method.name ++ ")"
  | convert _ => "Convert"

mutual

/-- The tree as messages show it. -/
def display : Predicate → String
  | column property => property
  | constant value => value.describe
  | list values => "[" ++ ", ".intercalate (values.map Value.describe) ++ "]"
  | binary op left right =>
    "(" ++ left.display ++ " " ++ op.name ++ " " ++ right.display ++ ")"
  | not operand => "!" ++ operand.display
  | call method target args =>
    target.display ++ "." ++ method.name ++ "(" ++ displayArgs args ++ ")"
  | convert operand => "cast(" ++ operand.display ++ ")"

/-- The arguments of a call as messages show them. -/
def displayArgs : List Predicate → String
  | [] => ""
  | [arg] => arg.display
  | arg :: next :: rest => arg.display ++ ", " ++ displayArgs (next :: rest)

end

/-! ### Combinators -/

/-- A comparison with a value. -/
def compare (comparison : Comparison) (target : Predicate) (value : Value) : Predicate :=
  .binary (.compare comparison) target (.constant value)

/-- A method of a text with a value as its argument. -/
def callWith (method : Method) (target : Predicate) (value : Value) : Predicate :=
  .call method target [.constant value]

/-- Membership of a node in a list. -/
def containsMember (list member : Predicate) : Predicate := .call .contains list [member]

/-- The node is one of the values. -/
def isIn (target : Predicate) (values : List Value) : Predicate :=
  containsMember (.list values) target

/-- The node is none of the values. -/
def notIn (target : Predicate) (values : List Value) : Predicate := .not (isIn target values)

end Predicate

end RowMapper

import RowMapper.Dialect
import RowMapper.Entity.Descriptor

/-!
# Filters

`Filter.compile` turns a predicate over the properties of an entity into a condition on the columns
of its table.  It takes comparisons of a property with a constant, on either side, joined with AND
and OR; the text methods on a property with a constant text; and membership of a property in a list,
negated or not.  Type conversions have no effect anywhere.  All else is an error that names the kind
of the node.
-/

namespace RowMapper

open Sql

/-- Where the columns of a predicate are looked up, and for which dialect it is written. -/
structure Filter where
  descriptor : Descriptor
  dialect : Dialect

namespace Filter

/-- The column of a property. -/
def column (filter : Filter) (property : String) : Except Error Ident := do
  let property ← filter.descriptor.property property
  return filter.dialect.column property.column

/-- Whether a value is NULL, if it can be bound at all. -/
def isNull (value : Value) : Except Error Bool := Datum.isNull <$> value.toDatum

/-- The condition of a comparison; equality with NULL asks whether there is a value. -/
def comparison (filter : Filter) (property : String) (op : Comparison) (value : Value) :
    Except Error Condition := do
  let column ← filter.column property
  match op, ← isNull value with
  | .eq, true => return .isNull column
  | .ne, true => return .isNotNull column
  | op, _ => return .compare column op value

/-- The text that a method looks for. -/
def likeText (method : Method) : List Predicate → Except Error String
  | [arg] =>
    match arg.unwrap with
    | .constant (.string (some text)) => .ok text
    | .constant (.char (some c)) => .ok (String.singleton c)
    | .constant (.string none) | .constant (.char none) => .error (.argument (.nullPattern method))
    | .constant value => .error (.argument (.patternNotText method value))
    | _ => .error (.unsupportedPredicate arg.kind)
  | _ => .error (.unsupportedPredicate ("Call(" ++ method.name ++ ")"))

/-- The pattern for a text at the start, at the end or anywhere. -/
def pattern (method : Method) (escaped : String) : String :=
  match method with
  | .startsWith => escaped ++ "%"
  | .endsWith => "%" ++ escaped
  | _ => "%" ++ escaped ++ "%"

/-- The condition that a property is or is not in a list. -/
def membership (filter : Filter) (values : List Value) (args : List Predicate) (negated : Bool) :
    Except Error Condition :=
  match args with
  | [member] =>
    match member.unwrap with
    | .column property => do
      let column ← filter.column property
      match values, negated with
      | [], true => return .raw "1 = 1"
      | [], false => return .raw "1 = 0"
      | values, true => return .noneOf column values
      | values, false => return .oneOf column values
    | _ => .error (.unsupportedPredicate member.kind)
  | _ => .error (.unsupportedPredicate "Call(Contains)")

/-- The condition of a method call. -/
def call (filter : Filter) (method : Method) (target : Predicate) (args : List Predicate) :
    Except Error Condition :=
  let unsupported := Error.unsupportedPredicate ("Call(" ++ method.name ++ ")")
  match method, target.unwrap with
  | .contains, .list values => filter.membership values args false
  | .startsWith, .column property | .endsWith, .column property | .contains, .column property => do
    let text ← likeText method args
    let column ← filter.column property
    return .like column (pattern method (filter.dialect.escapeLike text))
      filter.dialect.escapeChar?
  | .equals, .column property =>
    match args.map Predicate.unwrap with
    | [.constant value] => filter.comparison property .eq value
    | _ => .error unsupported
  | _, _ => .error unsupported

/-- The condition of a node; `kind` is that of the node with its type conversions. -/
def compileNode (filter : Filter) (kind : String) : Predicate → Except Error Condition
  | .convert operand => filter.compileNode kind operand
  | .binary .and left right => do
    let left ← filter.compileNode left.kind left
    let right ← filter.compileNode right.kind right
    return .join .and left right
  | .binary .or left right => do
    let left ← filter.compileNode left.kind left
    let right ← filter.compileNode right.kind right
    return .join .or left right
  | .binary (.compare op) left right =>
    match left.unwrap, right.unwrap with
    | .column property, .constant value => filter.comparison property op value
    | .constant value, .column property => filter.comparison property op.flip value
    | _, _ => .error (.unsupportedPredicate kind)
  | .binary _ _ _ => .error (.unsupportedPredicate kind)
  | .not operand =>
    match operand.unwrap with
    | .call .contains target args =>
      match target.unwrap with
      | .list values => filter.membership values args true
      | _ => .error (.unsupportedPredicate kind)
    | _ => .error (.unsupportedPredicate kind)
  | .call method target args => filter.call method target args
  | .column _ => .error (.unsupportedPredicate "Column")
  | .constant _ => .error (.unsupportedPredicate "Constant")
  | .list _ => .error (.unsupportedPredicate "List")

/-- The condition of a predicate. -/
def compile (filter : Filter) (predicate : Predicate) : Except Error Condition :=
  filter.compileNode predicate.kind predicate

end Filter

end RowMapper

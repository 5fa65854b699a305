/-!
# Comparisons

The six comparisons of a column with a value.
-/

namespace RowMapper

/-- A comparison of two values. -/
inductive Comparison where
  | eq
  | ne
  | gt
  | gte
  | lt
  | lte
  deriving DecidableEq, Repr

namespace Comparison

/-- The SQL operator. -/
def sign : Comparison → String
  | eq => "="
  | ne => "<>"
  | gt => ">"
  | gte => ">="
  | lt => "<"
  | lte => "<="

/-- The comparison that says the same of swapped operands: `a < b` is `b > a`. -/
def flip : Comparison → Comparison
  | gt => lt
  | gte => lte
  | lt => gt
  | lte => gte
  | c => c

@[simp] theorem flip_flip (c : Comparison) : c.flip.flip = c := by cases c <;> rfl

/-- The name of the comparison in messages. -/
def name : Comparison → String
  | eq => "Eq"
  | ne => "Ne"
  | gt => "Gt"
  | gte => "Gte"
  | lt => "Lt"
  | lte => "Lte"

/-- All comparisons. -/
def all : List Comparison := [eq, ne, gt, gte, lt, lte]

/-- The comparison of a name. -/
def ofName? (name : String) : Option Comparison := all.find? (·.name == name)

end Comparison

end RowMapper

import RowMapper.Json.Parser
import RowMapper.Sqlite.OneTable.RealText
import RowMapper.Sqlite.Stored
import RowMapper.Text.Split

/-!
# Statements on one table

The few statements by which values go through a SQLite connection: they answer their parameters, or
work on a table `t` with the columns `a` and `b`, which have no types.

* `Statement` — the statements;
* `Statement.read?` — the statement of a text.
-/

namespace RowMapper.Sqlite.OneTable

/-- A value in a statement. -/
inductive Slot where
  /-- The next parameter. -/
  | param
  | literal (value : Stored)
  deriving DecidableEq, Repr

/-- A statement. -/
inductive Statement where
  /-- Answers one row of parameters under names; a parameter may be converted to a text. -/
  | echo (columns : List (Bool × String))
  | createTable
  | insert (a b : Slot)
  | selectAll
  /-- Sets `b` in all rows. -/
  | update
  | deleteAll
  deriving DecidableEq, Repr

namespace Statement

/-- A word without the comma at its end, and whether there was one. -/
def cutComma (word : String) : String × Bool :=
  match word.toList.reverse with
  | ',' :: rest => (String.ofList rest.reverse, true)
  | _ => (word, false)

/-- Parameters under names, with commas between them.  A parameter that is given no name is the
last. -/
def readColumns : List String → Option (List (Bool × String))
  | ["?"] => some [(false, "?")]
  | "?" :: "AS" :: name :: rest =>
    match cutComma name with
    | (name, true) => (readColumns rest).map ((false, name) :: ·)
    | (name, false) => if rest.isEmpty then some [(false, name)] else none
  | "CAST(?" :: "AS" :: "TEXT)" :: "AS" :: name :: rest =>
    match cutComma name with
    | (name, true) => (readColumns rest).map ((true, name) :: ·)
    | (name, false) => if rest.isEmpty then some [(true, name)] else none
  | _ => none

/-- A value in a list of values. -/
def readSlot (text : List Char) : Option Slot :=
  match text with
  | ['?'] => some .param
  | ['N', 'U', 'L', 'L'] => some (.literal .null)
  | '\'' :: rest =>
    if rest.getLast? = some '\'' then some (.literal (.ofText (String.ofList rest.dropLast)))
    else none
  | digits =>
    match Json.parse? digits with
    | some (.number (.integer n)) => some (.literal (.integer (Int64.ofInt n)))
    | some (.number (.double x)) => some (.literal (.ofReal x))
    | _ => none

/-- Two values between parentheses, with a comma and a blank between them. -/
def readSlots (first second : String) : Option Statement :=
  match cutComma first with
  | (_, false) => none
  | (first, true) =>
    match first.toList, second.toList.reverse with
    | '(' :: a, ')' :: b => do return insert (← readSlot a) (← readSlot b.reverse)
    | _, _ => none

/-- The statement of a text, unless the text is no statement. -/
def read? (text : String) : Option Statement :=
  match (Split.split ' ' text.toList).map String.ofList with
  | ["CREATE", "TABLE", "t", "(a,", "b)"] => some createTable
  | ["SELECT", "a,", "b", "FROM", "t", "ORDER", "BY", "rowid"] => some selectAll
  | ["UPDATE", "t", "SET", "b", "=", "?"] => some update
  | ["DELETE", "FROM", "t"] => some deleteAll
  | ["INSERT", "INTO", "t", "VALUES", first, second] => readSlots first second
  | "SELECT" :: columns => (readColumns columns).map echo
  | _ => none

/-- Whether the statement changes the database. -/
def isChange : Statement → Bool
  | echo _ | selectAll => false
  | _ => true

/-- The names of the columns that the statement answers. -/
def columns : Statement → List String
  | echo columns => columns.map (·.2)
  | selectAll => ["a", "b"]
  | _ => []

/-- How many parameters the statement takes. -/
def paramCount : Statement → Nat
  | echo columns => columns.length
  | insert a b => [a, b].count .param
  | update => 1
  | _ => 0

end Statement

end RowMapper.Sqlite.OneTable

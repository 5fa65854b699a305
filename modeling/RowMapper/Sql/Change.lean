import RowMapper.Sql.Condition

/-!
# INSERT, UPDATE and DELETE

* `Insert` — rows of values for a list of columns; a row without values is left out;
* `Update` — new values for columns of the rows on which conditions hold;
* `Delete` — removal of those rows.
-/

namespace RowMapper.Sql

/-- What an INSERT answers for the rows it makes. -/
inductive Returning where
  | nothing
  | star
  | column (name : Ident)
  deriving DecidableEq, Repr

/-- The tokens of the answer of an INSERT. -/
def Returning.tokens : Returning → List Token
  | nothing => []
  | star => [.text " RETURNING *"]
  | column name => [.text " RETURNING ", .name name]

/-- New rows for a table. -/
structure Insert where
  table : String
  columns : List Ident
  rows : List (List Value)

namespace Insert

/-- The insert, if every row has as many values as there are columns. -/
def check (insert : Insert) : Except Error Insert :=
  match insert.rows.find? fun row => row.length != insert.columns.length with
  | some row =>
    .error (.invalidOperation (.raggedRow insert.table insert.columns.length row.length))
  | none => .ok insert

/-- The rows that are written: those with values. -/
def written (insert : Insert) : List (List Value) := insert.rows.filter (!·.isEmpty)

/-- The tokens of an insert. -/
def tokens (insert : Insert) (returning : Returning) : List Token :=
  .text "INSERT INTO " :: .name (.plain insert.table) :: .text " (" ::
    separated ", " (insert.columns.map fun column => [.name column]) ++ .text ")" ::
    (match insert.written with
      | [] => []
      | rows => .text " VALUES " :: separated ", " (rows.map Condition.listTokens)) ++
    returning.tokens

end Insert

/-- The conditions that columns have given values. -/
def matching (keys : List (Ident × Value)) : List Condition :=
  keys.map fun (column, value) => .compare column .eq value

/-- New values for columns of some rows of a table. -/
structure Update where
  table : String
  assignments : List (Ident × Value)
  /-- Conditions that all hold of the rows. -/
  filters : List Condition

/-- The tokens of an update. -/
def Update.tokens (update : Update) : List Token :=
  .text "UPDATE " :: .name (.plain update.table) :: .text " SET " ::
    separated ", " (update.assignments.map fun (column, value) =>
      [.name column, .text " = ", .param value]) ++
    whereTokens update.filters

/-- Removal of some rows of a table. -/
structure Delete where
  table : String
  /-- Conditions that all hold of the rows. -/
  filters : List Condition

/-- The tokens of a removal. -/
def Delete.tokens (delete : Delete) : List Token :=
  .text "DELETE FROM " :: .name (.plain delete.table) :: whereTokens delete.filters

end RowMapper.Sql

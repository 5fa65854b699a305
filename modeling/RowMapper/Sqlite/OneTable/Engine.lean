import RowMapper.Sqlite.Engine
import RowMapper.Sqlite.OneTable.Location
import RowMapper.Sqlite.OneTable.Statement
import RowMapper.Text.CharClass.Blank

/-!
# An engine for one table

An engine that knows the statements of `OneTable.Statement` and answers them as SQLite does.  It
stands for SQLite where statements are run and not only spoken of.

* `Database` — the content of a database, which a new one does not have;
* `Database.query`, `exec`, `batch` — what the statements do;
* `engine` — the engine.
-/

namespace RowMapper.Sqlite.OneTable

/-- The content of a database. -/
structure Database where
  /-- The rows of the table, if there is one. -/
  table : Option (List (Stored × Stored))
  /-- How many rows the last change affected. -/
  changes : Nat
  writable : Bool
  deriving DecidableEq, Repr

/-- The value converted to a text: a blob keeps its bytes, and a number is written out. -/
def asText : Stored → Stored
  | .null => .null
  | .integer n => .ofText (toString n.toInt)
  | .real x => .ofText (RealText.write x)
  | .text bytes => .text bytes
  | .blob bytes => .text bytes

namespace Database

/-- A database without a table. -/
def empty (writable : Bool) : Database := ⟨none, 0, writable⟩

/-- Whether a statement fits the tables that there are. -/
def admits (database : Database) : Statement → Bool
  | .echo _ => true
  | .createTable => database.table.isNone
  | _ => database.table.isSome

/-- Whether the database may be changed as a statement does. -/
def permits (database : Database) (statement : Statement) : Bool :=
  database.writable || !statement.isChange

/-- The statement of a text, if it fits the tables that there are. -/
def prepare (sql : String) (database : Database) : Option Statement :=
  (Statement.read? sql).filter database.admits

/-- The value of a slot and the parameters after it; a parameter that is not given is NULL. -/
def fill : Slot → List Stored → Stored × List Stored
  | .literal value, params => (value, params)
  | .param, params => (params.headD .null, params.tail)

/-- The rows that a statement answers, and the database after it. -/
def run (database : Database) (params : List Stored) : Statement → List (List Stored) × Database
  | .echo columns =>
    ([columns.zipIdx.map fun ((cast, _), i) =>
        let value := params.getD i .null
        if cast then asText value else value],
      database)
  | .createTable => ([], { database with table := some [] })
  | .insert a b =>
    let (a, params) := fill a params
    let (b, _) := fill b params
    ([], { database with
      table := some (database.table.getD [] ++ [(a, b)])
      changes := 1 })
  | .selectAll => ((database.table.getD []).map fun (a, b) => [a, b], database)
  | .update =>
    let rows := database.table.getD []
    let b := params.headD .null
    ([], { database with
      table := some (rows.map fun (a, _) => (a, b))
      changes := rows.length })
  | .deleteAll =>
    ([], { database with table := some [], changes := (database.table.getD []).length })

/-- The rows that a statement answers.  Whether the database may be changed shows with the first of
them. -/
def query (statement : Statement) (params : List Stored) (database : Database) :
    Option Answered × Database :=
  if params.length ≠ statement.paramCount then (none, database)
  else if database.permits statement then
    let (rows, database) := database.run params statement
    (some ⟨rows, true⟩, database)
  else (some ⟨[], false⟩, database)

/-- The number of rows that a statement affects.  A statement that answers a row fails. -/
def exec (statement : Statement) (params : List Stored) (database : Database) :
    Option Nat × Database :=
  if params.length ≠ statement.paramCount || !database.permits statement then (none, database)
  else
    let (rows, later) := database.run params statement
    if rows.isEmpty then (some later.changes, later) else (none, database)

/-- Runs statements without parameters up to the first that fails; those before it stay done. -/
def runAll (database : Database) : List String → Bool × Database
  | [] => (true, database)
  | sql :: rest =>
    match database.prepare sql with
    | none => (false, database)
    | some statement =>
      if database.permits statement then (database.run [] statement).2.runAll rest
      else (false, database)

/-- The statements between the semicolons of a text, without the blanks around them. -/
def statementsOf (sql : String) : List String :=
  ((Split.split ';' sql.toList).map fun part => String.ofList (trimBlank part)).filter (· ≠ "")

/-- Runs the statements of a text. -/
def batch (sql : String) (database : Database) : Bool × Database :=
  database.runAll (statementsOf sql)

end Database

/-- The engine, where `directories` are those that there are. -/
def engine (directories : List String) : Engine Database where
  Prepared := Statement
  openAt path := do
    let location ← Location.ofPath? path
    if location.canOpen directories then some (.empty location.isWritable) else none
  closes _ := true
  wait _ database := some database
  prepare := Database.prepare
  columns := Statement.columns
  query := Database.query
  exec := Database.exec
  batch := Database.batch

end RowMapper.Sqlite.OneTable

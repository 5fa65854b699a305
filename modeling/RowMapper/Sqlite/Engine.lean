import RowMapper.Row
import RowMapper.Sqlite.Stored

/-!
# Engines

SQLite itself is not described here.  An engine is what a connection relies on: it opens databases,
prepares texts as statements and runs them with stored values.  What is described is what is done
around it with the data: parameters are stored before a statement runs, and rows come back from what
is stored.

* `Engine` — opens databases, prepares statements and runs them;
* `Engine.ready` — a statement that is prepared, with its parameters as they are stored;
* `Engine.queryRows`, `execCount` — what a statement answers, and what it affects.
-/

namespace RowMapper.Sqlite

/-- What comes of a statement that answers rows. -/
structure Answered where
  /-- The rows, with a value for each column. -/
  rows : List (List Stored)
  /-- Whether there was no error behind these rows. -/
  complete : Bool
  deriving DecidableEq, Repr

/-- An engine for databases, which are of the type `δ` while they are open.  What fails answers
nothing. -/
structure Engine (δ : Type) where
  /-- Statements that are prepared. -/
  Prepared : Type
  /-- The database at a path. -/
  openAt : String → Option δ
  /-- Whether a database can be closed. -/
  closes : δ → Bool
  /-- The database with a time to wait for a lock, in milliseconds. -/
  wait : Nat → δ → Option δ
  /-- A text as a statement. -/
  prepare : String → δ → Option Prepared
  /-- The names of the columns of a statement. -/
  columns : Prepared → List String
  /-- Runs a statement with values for its rows. -/
  query : Prepared → List Stored → δ → Option Answered × δ
  /-- Runs a statement with values for the number of rows that it affects. -/
  exec : Prepared → List Stored → δ → Option Nat × δ
  /-- Runs statements without values that a text separates by semicolons, and says whether all of
  them succeeded. -/
  batch : String → δ → Bool × δ

/-- What is done with an open database, and may fail. -/
abbrev Work (δ : Type) := ExceptT Fault (StateM δ)

/-- Something that an engine does; the fault says what failed. -/
def Work.attempt {δ α : Type} (fault : Fault) (step : δ → Option α × δ) : Work δ α :=
  fun database => match step database with
  | (some a, database) => (.ok a, database)
  | (none, database) => (.error fault, database)

/-- The data of a row under the names of the columns. -/
def readFields : List String → List Stored → Except Fault (List (String × Datum))
  | [], _ => .ok []
  | _ :: _, [] => .error .columnFailed
  | name :: names, value :: values => do
    let d ← value.toDatum
    let rest ← readFields names values
    return (name, d) :: rest

/-- The rows that values describe, numbered from zero. -/
def readRows (names : List String) (rows : List (List Stored)) : Except Fault (List Row) :=
  rows.zipIdx.mapM fun (values, index) => do
    let fields ← readFields names values
    return ⟨toString index, fields⟩

namespace Engine

variable {δ : Type} (engine : Engine δ)

/-- The database with a time to wait, if a statement has one. -/
def waiting : Option Nat → δ → Option δ
  | none, database => some database
  | some time, database => engine.wait time database

/-- A statement that is ready to run.  The time is set before the text is prepared, and parameters
are stored after that. -/
def ready (statement : Statement) : Work δ (engine.Prepared × List Stored) := do
  match engine.waiting statement.timeout (← get) with
  | none => throw .timeoutFailed
  | some database =>
    set database
    match engine.prepare statement.sql database with
    | none => throw .prepareFailed
    | some prepared =>
      let values ← liftM (statement.params.mapM Stored.ofDatum)
      return (prepared, values)

/-- The rows that a statement answers.  A row that does not come back counts before an error behind
it. -/
def queryRows (statement : Statement) : Work δ (List Row) := do
  let (prepared, values) ← engine.ready statement
  let answered ← Work.attempt .queryFailed (engine.query prepared values)
  let rows ← readRows (engine.columns prepared) answered.rows
  if answered.complete then return rows else throw .fetchFailed

/-- The number of rows that a statement affects. -/
def execCount (statement : Statement) : Work δ Nat := do
  let (prepared, values) ← engine.ready statement
  Work.attempt .execFailed (engine.exec prepared values)

end Engine

end RowMapper.Sqlite

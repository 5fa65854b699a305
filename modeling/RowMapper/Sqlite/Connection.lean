import RowMapper.Sqlite.Engine

/-!
# SQLite connections

A connection to a database of an engine.  It is open or closed; while it is closed there is no
database, and nothing runs.

* `Connection` — where a database is, and the database while the connection is open;
* `Connection.connect`, `reopen`, `close` — its life cycle;
* `Connection.query`, `exec`, `batch` — statements on it.
-/

namespace RowMapper.Sqlite

/-- A connection to a database. -/
structure Connection (δ : Type) where
  /-- Where the database is. -/
  path : String
  /-- The database, while the connection is open. -/
  database : Option δ
  deriving DecidableEq, Repr

/-- The name of the type of connections. -/
def typeName : String := "SqliteConnection"

/-- The database that is used if the environment names none. -/
def defaultPath : String := "file::memory:?cache=shared"

/-- A database of its own, in memory. -/
def memoryPath : String := ":memory:"

/-- The place of a database, from the environment. -/
def pathFromEnvironment (setting : Option String) : String := setting.getD defaultPath

namespace Connection

variable {δ α : Type} (engine : Engine δ) (connection : Connection δ)

/-- A connection to the database at a path. -/
def connect (path : String) : Except Fault (Connection δ) :=
  match engine.openAt path with
  | none => .error .openFailed
  | some database => .ok ⟨path, some database⟩

/-- Whether the connection is open. -/
def isOpen : Bool := connection.database.isSome

/-- Opens the connection again if it is closed. -/
def reopen : Except Fault Unit × Connection δ :=
  if connection.isOpen then (.ok (), connection)
  else
    match connect engine connection.path with
    | .error fault => (.error fault, connection)
    | .ok connection => (.ok (), connection)

/-- Closes the connection.  It is closed even if this fails. -/
def close : Except Fault Unit × Connection δ :=
  match connection.database with
  | none => (.ok (), connection)
  | some database =>
    (if engine.closes database then .ok () else .error .closeFailed,
      { connection with database := none })

/-- Works on the database, which there is if the connection is open. -/
def work (act : Work δ α) : Except Fault α × Connection δ :=
  match connection.database with
  | none => (.error .closed, connection)
  | some database =>
    let (outcome, database) := act database
    (outcome, { connection with database := some database })

/-- The rows that a statement answers. -/
def query (statement : Statement) : Except Fault (List Row) × Connection δ :=
  connection.work (engine.queryRows statement)

/-- The number of rows that a statement affects. -/
def exec (statement : Statement) : Except Fault Nat × Connection δ :=
  connection.work (engine.execCount statement)

/-- Runs statements without parameters, which a text separates by semicolons. -/
def batch (sql : String) : Except Fault Unit × Connection δ :=
  connection.work <| Work.attempt .batchFailed fun database =>
    let (done, database) := engine.batch sql database
    (if done then some () else none, database)

end Connection

end RowMapper.Sqlite

import RowMapper.Sql.Change
import RowMapper.Sql.Select
import RowMapper.Text.LetterCase

/-!
# Dialects

The six dialects of SQL that the library writes, each with its names, placeholders, windows, escapes
in LIKE patterns, and way to ask for the key that an insert generated.

* `Dialect.style`, `Dialect.column` — how statements and column names are written;
* `Dialect.escapeLike` — a text as part of a LIKE pattern that matches only itself;
* `Dialect.readBack` — how the generated key is asked for;
* `Dialect.keyOfType`, `Dialect.defaults` — which dialect belongs to a type of connections.
-/

namespace RowMapper

open Sql

/-- A dialect of SQL. -/
inductive Dialect where
  | sqlServer
  | sqlServerCompact
  | postgres
  | sqlite
  | mySql
  | firebird
  deriving DecidableEq, Repr

/-- How the special characters of LIKE patterns are escaped. -/
inductive LikeEscape where
  /-- A backslash in front of the character. -/
  | backslash
  /-- Square brackets around the character. -/
  | bracket
  deriving DecidableEq, Repr

/-- The name of the way to escape. -/
def LikeEscape.name : LikeEscape → String
  | .backslash => "Backslash"
  | .bracket => "Bracket"

/-- Whether a character is special in LIKE patterns. -/
def LikeEscape.isSpecial : LikeEscape → Char → Bool
  | .backslash, c => c = '\\' || c = '%' || c = '_'
  | .bracket, c => c = '[' || c = '%' || c = '_'

/-- A special character as a pattern for itself. -/
def LikeEscape.guardChar : LikeEscape → Char → List Char
  | .backslash, c => ['\\', c]
  | .bracket, c => ['[', c, ']']

/-- A text as a pattern for itself. -/
def LikeEscape.escape (escape : LikeEscape) (text : List Char) : List Char :=
  text.flatMap fun c => if escape.isSpecial c then escape.guardChar c else [c]

/-- How the key that an insert generated is asked for. -/
inductive ReadBack where
  /-- The text is appended to the insert, which then answers rows. -/
  | appended (sql : String)
  /-- The insert answers the column. -/
  | returning (column : String)
  /-- The text is a statement of its own after the insert. -/
  | statement (sql : String)
  deriving DecidableEq, Repr

namespace Dialect

/-- The name of the dialect. -/
def name : Dialect → String
  | sqlServer => "sqlserver"
  | sqlServerCompact => "sqlce"
  | postgres => "postgres"
  | sqlite => "sqlite"
  | mySql => "mysql"
  | firebird => "firebird"

/-- All dialects. -/
def all : List Dialect := [sqlServer, sqlServerCompact, postgres, sqlite, mySql, firebird]

/-- The dialect of a name. -/
def ofName? (name : String) : Option Dialect := all.find? (·.name == name)

/-- How the dialect writes statements. -/
def style : Dialect → Style
  | sqlServer => ⟨⟨'[', ']'⟩, "@P", true, .rowNumber⟩
  | sqlServerCompact => ⟨⟨'[', ']'⟩, "@P", true, .offsetFetch⟩
  | postgres => ⟨⟨'"', '"'⟩, "$", true, .limitOffset⟩
  | sqlite => ⟨⟨'"', '"'⟩, "?", false, .limitOffset⟩
  | mySql => ⟨⟨'\x60', '\x60'⟩, "?", false, .limitOffset⟩
  | firebird => ⟨⟨'"', '"'⟩, "?", false, .rowsTo⟩

/-- The name of a column.  Firebird folds the case of bare names only, so there they stay bare. -/
def column (dialect : Dialect) (name : String) : Ident :=
  match dialect with
  | firebird => .plain name
  | _ => .quoted name

/-- The text of the name of a column. -/
def columnText (dialect : Dialect) (name : String) : String :=
  String.ofList ((dialect.column name).write dialect.style.marks)

/-- How the dialect escapes the special characters of LIKE patterns. -/
def likeEscape : Dialect → LikeEscape
  | sqlServer | sqlServerCompact => .bracket
  | _ => .backslash

/-- The character for the `ESCAPE` clause of a LIKE, where patterns have none by default. -/
def escapeChar? : Dialect → Option Char
  | postgres | sqlite | firebird => some '\\'
  | _ => none

/-- A text as a LIKE pattern for itself. -/
def escapeLike (dialect : Dialect) (text : String) : String :=
  String.ofList (dialect.likeEscape.escape text.toList)

/-- How the key that an insert into a table generated is asked for.  Of several key columns the
insert itself answers the last, and a statement of its own the first. -/
def readBack (dialect : Dialect) (table : String) (keyColumns : List String) : ReadBack :=
  match dialect with
  | sqlServer => .appended ";select SCOPE_IDENTITY() id"
  | sqlServerCompact => .statement "select @@IDENTITY id"
  | postgres => .returning (keyColumns.getLastD "")
  | sqlite => .statement "SELECT last_insert_rowid() id"
  | mySql => .statement "Select LAST_INSERT_ID() id"
  | firebird =>
    let key := keyColumns.headD ""
    .statement ("SELECT FIRST 1 " ++ key ++ " ID FROM " ++ table ++ " ORDER BY " ++ key ++ " DESC")

/-- The text up to the first `::`. -/
def beforePath : List Char → List Char
  | [] => []
  | ':' :: ':' :: _ => []
  | c :: rest => c :: beforePath rest

/-- The text after the last `::`. -/
def afterPath (text : List Char) : List Char := (beforePath text.reverse).reverse

/-- The key of a type of connections: its name without path and parameters, in lower case. -/
def keyOfType (typeName : String) : String :=
  LetterCase.lowercase (String.ofList (afterPath (typeName.toList.takeWhile (· ≠ '<'))))

/-- The keys of connections and their dialects. -/
def defaults : List (String × Dialect) :=
  [("sqlconnection", sqlServer), ("sqlceconnection", sqlServerCompact),
    ("npgsqlconnection", postgres), ("postgresconnection", postgres),
    ("sqliteconnection", sqlite), ("mysqlconnection", mySql), ("fbconnection", firebird)]

/-- The dialect for keys that are not registered. -/
def fallback : Dialect := sqlServer

end Dialect

end RowMapper

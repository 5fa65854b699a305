import RowMapper.Mapper.Basic

/-!
# Reading by key

One entity by its key, or all entities of a type.
-/

namespace RowMapper.Mapper

open Sql

/-- The query for the rows of a table on which conditions hold. -/
def rowsWhere (table : String) (filters : List Condition) : Select :=
  ⟨.star, .plain table, filters, []⟩

/-- The entity with a key, if there is one. -/
def get (mapper : Mapper) (connection : String) (type : EntityType) (id : Value) :
    Action (Option Record) := do
  let descriptor ← mapper.describe type
  let dialect := mapper.dialectFor connection
  let key ← descriptor.singleKey "get"
  let query ← cachedQuery ⟨type, .get, dialect⟩ [id] fun values =>
    (rowsWhere descriptor.table (matching (values.map (dialect.column key.column, ·)))).tokens
  match ← mapper.query query with
  | [] => return none
  | row :: _ => return some (← type.fromRow mapper.own row)

/-- All entities of a type. -/
def getAll (mapper : Mapper) (connection : String) (type : EntityType) :
    Action (List Record) := do
  let descriptor ← mapper.describe type
  let dialect := mapper.dialectFor connection
  let query ← cachedQuery ⟨type, .getAll, dialect⟩ [] fun _ =>
    (rowsWhere descriptor.table []).tokens
  let rows ← mapper.query query
  rows.mapM fun row => (type.fromRow mapper.own row : Except Error Record)

end RowMapper.Mapper

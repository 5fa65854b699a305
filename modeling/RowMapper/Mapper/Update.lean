import RowMapper.Mapper.Basic
import RowMapper.Tracked

/-!
# Updating

An update writes all updatable properties of an entity; the update of a tracked entity writes those
that changed.
-/

namespace RowMapper

open Sql

namespace Mapper

/-- The update of the row that has the keys' values.  The values are those of the columns, followed
by those of the keys. -/
def updateOf (dialect : Dialect) (table : String) (columns keys : List Property)
    (values : List Value) : Update :=
  let name (p : Property) := dialect.column p.column
  { table
    assignments := (columns.map name).zip values
    filters := matching ((keys.map name).zip (values.drop columns.length)) }

/-- Updates the row of an entity: all updatable columns, or those of them that are named. -/
def updateColumns (mapper : Mapper) (connection : String) (type : EntityType) (record : Record)
    (only : Option (List String)) : Action Bool := do
  let descriptor ← mapper.describe type
  let dialect := mapper.dialectFor connection
  let keys ← descriptor.requireKeys "update"
  if descriptor.updatable.isEmpty then
    throw (.invalidOperation (.nothingToUpdate descriptor.entity))
  let columns := match only with
    | none => descriptor.updatable
    | some names => descriptor.updatable.filter fun p => names.contains p.name
  if columns.isEmpty then
    return false
  let assigned ← type.valuesOf record columns
  let identifying ← type.valuesOf record keys
  let values := assigned ++ identifying
  let tokens values := (updateOf dialect descriptor.table columns keys values).tokens
  let query ← match only with
    | none => cachedQuery ⟨type, .update, dialect⟩ values tokens
    | some _ => Query.build dialect.style (tokens values)
  return 0 < (← mapper.exec query)

/-- Updates the row of an entity; the answer is whether there was one. -/
def update (mapper : Mapper) (connection : String) (type : EntityType) (record : Record) :
    Action Bool :=
  mapper.updateColumns connection type record none

end Mapper

/-- An operation on a tracked entity, which is there to be looked at however the operation ends. -/
abbrev TrackedAction := ExceptT Error (StateT Tracked (StateT Cache Dialogue))

namespace TrackedAction

variable {α : Type}

/-- An operation that leaves the tracked entity alone. -/
def ofAction (action : Action α) : TrackedAction α :=
  ExceptT.mk (StateT.lift action.run)

/-- The operation on an entity that a caller holds, who has it back if the operation succeeds. -/
def holding (action : TrackedAction α) (tracked : Tracked) : Action (α × Tracked) :=
  ExceptT.mk do
    let (result, later) ← action.run.run tracked
    return result.map fun a => (a, later)

end TrackedAction

/-- Writes the changes of the tracked entity.  Nothing is sent if there are none, and after a
success there are none. -/
def Mapper.updateTracked (mapper : Mapper) (connection : String) : TrackedAction Bool := do
  let tracked ← getThe Tracked
  let write only :=
    TrackedAction.ofAction (mapper.updateColumns connection tracked.type tracked.record only)
  let updated ← match tracked.dirty with
    | .clean => return false
    | .all => write none
    | .fields names => write (some names)
  modify Tracked.markClean
  return updated

end RowMapper

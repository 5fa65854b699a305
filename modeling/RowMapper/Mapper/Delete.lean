import RowMapper.Mapper.Basic

/-!
# Deleting

One entity, several, or all of a type.  Entities are found by all their keys.
-/

namespace RowMapper.Mapper

open Sql

/-- The condition that columns have given values, one by one; there is at least one column. -/
def keyMatch? (dialect : Dialect) (keys : List Property) (values : List Value) : Option Condition :=
  Condition.joinAll? .and (matching ((keys.map fun p => dialect.column p.column).zip values))

/-- Deletes an entity; the answer is whether there was one. -/
def delete (mapper : Mapper) (connection : String) (type : EntityType) (record : Record) :
    Action Bool := do
  let descriptor ← mapper.describe type
  let dialect := mapper.dialectFor connection
  let keys ← descriptor.requireKeys "delete"
  let values ← type.valuesOf record keys
  let query ← cachedQuery ⟨type, .delete, dialect⟩ values fun values =>
    Delete.tokens ⟨descriptor.table, (keyMatch? dialect keys values).toList⟩
  return 0 < (← mapper.exec query)

/-- Deletes entities with one statement; the answer is whether there was any of them. -/
def deleteMany (mapper : Mapper) (connection : String) (type : EntityType)
    (records : List Record) : Action Bool := do
  let descriptor ← mapper.describe type
  let dialect := mapper.dialectFor connection
  let keys ← descriptor.requireKeys "delete"
  if records.isEmpty then
    throw (.argument (.noEntities descriptor.entity))
  let conditions ← records.mapM fun record => do
    let values ← type.valuesOf record keys
    return keyMatch? dialect keys values
  let any := Condition.joinAll? .or (conditions.filterMap id)
  let query ← Query.build dialect.style (Delete.tokens ⟨descriptor.table, any.toList⟩)
  return 0 < (← mapper.exec query)

/-- Deletes all entities of a type; the answer is whether there was any. -/
def deleteAll (mapper : Mapper) (connection : String) (type : EntityType) : Action Bool := do
  let descriptor ← mapper.describe type
  let dialect := mapper.dialectFor connection
  let query ← cachedQuery ⟨type, .deleteAll, dialect⟩ [] fun _ =>
    Delete.tokens ⟨descriptor.table, []⟩
  return 0 < (← mapper.exec query)

end RowMapper.Mapper

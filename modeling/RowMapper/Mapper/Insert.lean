import RowMapper.Mapper.Basic

/-!
# Inserting

A single entity is inserted for the key that the database generates, several for the number of rows.
A closed connection is opened for the operation and closed after it, however it ends.
-/

namespace RowMapper

open Sql

/-- A number of rows as a signed 64-bit integer; larger numbers count as the largest. -/
def signedCount (count : Nat) : Int := IntRange.int64.clamp count

/-- The identity in a column of the first row; without row or column it is zero. -/
def firstIdentity (rows : List Row) (column : String) : Except Error Int :=
  match rows.head?.bind (·.get? column) with
  | some d => d.identity
  | none => .ok 0

namespace Mapper

/-- The insert of rows for the properties that a type writes. -/
def insertOf (descriptor : Descriptor) (dialect : Dialect) (rows : List (List Value)) : Insert :=
  ⟨descriptor.table, descriptor.insertable.map fun p => dialect.column p.column, rows⟩

/-- Runs an operation on an open connection.  If the connection was closed it is closed again, and
whether that succeeds makes no difference. -/
def whileOpen {α : Type} (body : Action α) : Action α := do
  let isOpen : Bool ← Action.call .isOpen
  if isOpen then
    body
  else
    Action.ofAnswer (← Action.call .openUp)
    let result ← liftM (m := StateT Cache Dialogue) body.run
    let _ ← Action.call .close
    liftExcept result
where
  /-- The outcome of an operation that has ended. -/
  liftExcept {α : Type} : Except Error α → Action α
    | .ok a => pure a
    | .error e => throw e

/-- Inserts rows and reads back the key that was generated for them; for a type without generated
keys, the number of rows. -/
def insertReturning (mapper : Mapper) (dialect : Dialect) (insert : Insert) (keys : List Property) :
    Action Int := do
  let insert ← insert.check
  let columns := keys.map (·.column)
  match columns, dialect.readBack insert.table columns with
  | [], .returning _ =>
    let rows ← mapper.query (← Query.build dialect.style (insert.tokens .star))
    return signedCount rows.length
  | [], _ =>
    let affected ← mapper.exec (← Query.build dialect.style (insert.tokens .nothing))
    return signedCount affected.toNat
  | key :: _, .returning column =>
    let rows ← mapper.query
      (← Query.build dialect.style (insert.tokens (.column (dialect.column column))))
    firstIdentity rows key
  | _, .appended sql =>
    let query ← Query.build dialect.style (insert.tokens .nothing)
    let rows ← mapper.query { query with sql := query.sql ++ sql }
    firstIdentity rows "id"
  | _, .statement sql =>
    let _ ← mapper.exec (← Query.build dialect.style (insert.tokens .nothing))
    let rows ← mapper.query (Query.raw sql)
    firstIdentity rows "id"

/-- Inserts one entity. -/
def insert (mapper : Mapper) (connection : String) (type : EntityType) (record : Record) :
    Action Int := do
  let descriptor ← mapper.describe type
  let dialect := mapper.dialectFor connection
  whileOpen do
    let row ← type.valuesOf record descriptor.insertable
    mapper.insertReturning dialect (insertOf descriptor dialect [row]) descriptor.keys

/-- Inserts entities with one statement. -/
def insertMany (mapper : Mapper) (connection : String) (type : EntityType)
    (records : List Record) : Action Int := do
  let descriptor ← mapper.describe type
  let dialect := mapper.dialectFor connection
  match records with
  | [] => return 0
  | records =>
    whileOpen do
      let rows ← records.mapM fun record => type.valuesOf record descriptor.insertable
      let insert ← (insertOf descriptor dialect rows).check
      let affected ← mapper.exec (← Query.build dialect.style (insert.tokens .nothing))
      return signedCount affected.toNat

end Mapper

end RowMapper

import RowMapper.Dialogue
import RowMapper.Filter

/-!
# The mapper

A `Mapper` stores entities through connections.  It knows how tables are named, which dialect
belongs to which connection, and how long a statement may take.  What it has worked out once it
keeps in a `Cache`: the descriptors of types, and the texts of statements that depend only on the
type.

* `Mapper`, `Mapper.dialectFor` — the configuration, and the choice of a dialect;
* `Cache`, `Action` — what is kept between operations, and an operation that may fail;
* `Mapper.describe`, `cachedQuery` — the descriptor of a type and a statement with fresh values;
* `Mapper.query`, `Mapper.exec` — running a query.
-/

namespace RowMapper

open Sql

/-- How entities are stored and connections are spoken to. -/
structure Mapper where
  /-- Names the tables of types that name none themselves. -/
  tableRule : TableRule
  /-- The key of the dialect for a type of connections. -/
  resolve : String → String
  /-- Keys in lower case with their dialects, in the order of registration. -/
  registered : List (String × Dialect)
  /-- The time allowed for a statement, in milliseconds. -/
  timeout : Option Nat
  /-- The types of properties that are the caller's own. -/
  own : OwnTypes

namespace Mapper

/-- The mapper without any configuration. -/
def standard : Mapper := ⟨pluralTable, Dialect.keyOfType, [], none, .unknown⟩

/-- The mapper with one more dialect, which takes the place of others with its key. -/
def register (mapper : Mapper) (key : String) (dialect : Dialect) : Mapper :=
  { mapper with registered := mapper.registered ++ [(LetterCase.lowercase key, dialect)] }

/-- The mapper with its own rule for the key of the dialect; keys do not depend on case. -/
def resolveWith (mapper : Mapper) (rule : String → String) : Mapper :=
  { mapper with resolve := fun typeName => LetterCase.lowercase (rule typeName) }

/-- The dialect for a type of connections: the one registered last for its key. -/
def dialectFor (mapper : Mapper) (connection : String) : Dialect :=
  match (mapper.registered.reverse ++ Dialect.defaults).find?
      (·.1 == mapper.resolve connection) with
  | some (_, dialect) => dialect
  | none => Dialect.fallback

end Mapper

/-- The statements whose text depends only on type and dialect. -/
inductive StatementKind where
  | get
  | getAll
  | update
  | delete
  | deleteAll
  deriving DecidableEq, Repr

/-- What a statement's text depends on. -/
structure StatementKey where
  type : EntityType
  kind : StatementKind
  dialect : Dialect
  deriving DecidableEq, Repr

/-- What a mapper keeps between operations. -/
structure Cache where
  descriptors : List (EntityType × Descriptor)
  statements : List (StatementKey × String)
  deriving DecidableEq, Repr

namespace Cache

/-- The cache of a new mapper. -/
def empty : Cache := ⟨[], []⟩

/-- The descriptor kept for a type. -/
def descriptor? (cache : Cache) (type : EntityType) : Option Descriptor :=
  (cache.descriptors.find? (·.1 == type)).map (·.2)

/-- The text kept for a statement. -/
def statement? (cache : Cache) (key : StatementKey) : Option String :=
  (cache.statements.find? (·.1 == key)).map (·.2)

end Cache

/-- An operation of a mapper: it may talk to a connection, change the cache, and fail. -/
abbrev Action := ExceptT Error (StateT Cache Dialogue)

namespace Action

variable {α : Type}

/-- The answer of the connection to a call. -/
def call (c : Call) : Action c.Answer := liftM (m := StateT Cache Dialogue) (Dialogue.call c)

/-- The result of a call that may fail with a message. -/
def ofAnswer : Except String α → Action α
  | .ok a => pure a
  | .error message => throw (.database message)

end Action

namespace Mapper

/-- The descriptor of a type. -/
def describe (mapper : Mapper) (type : EntityType) : Action Descriptor := do
  match (← get).descriptor? type with
  | some descriptor => return descriptor
  | none =>
    let descriptor := Descriptor.build mapper.tableRule type
    modify fun cache => { cache with descriptors := (type, descriptor) :: cache.descriptors }
    return descriptor

/-- A statement with its values.  Its text is written once, by the first values that can be bound,
and kept. -/
def cachedQuery (key : StatementKey) (values : List Value) (tokens : List Value → List Token) :
    Action Query := do
  match (← get).statement? key with
  | some sql => Query.withValues sql values
  | none =>
    let query ← Query.build key.dialect.style (tokens values)
    modify fun cache => { cache with statements := (key, query.sql) :: cache.statements }
    return query

/-- The statement that is sent for a query. -/
def statement (mapper : Mapper) (query : Query) : Statement :=
  ⟨query.sql, query.params, mapper.timeout⟩

/-- The rows that a query answers. -/
def query (mapper : Mapper) (query : Query) : Action (List Row) := do
  Action.ofAnswer (← Action.call (.query (mapper.statement query)))

/-- The number of rows that a query affects. -/
def exec (mapper : Mapper) (query : Query) : Action UInt64 := do
  Action.ofAnswer (← Action.call (.exec (mapper.statement query)))

end Mapper

end RowMapper

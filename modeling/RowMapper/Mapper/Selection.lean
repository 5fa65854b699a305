import RowMapper.Mapper.Basic
import RowMapper.Paging.Cursor
import RowMapper.Paging.PagedList

/-!
# Selections

A `Selection` is a query that a caller puts together: filters, an order, and at the end what to make
of the rows.  The first filter that cannot be compiled is the error of every end.

* `Mapper.select`, `Selection.whereIf`, `Selection.orderBy` — putting together;
* `Selection.fetch`, `count`, `fetchPage`, `fetchCursor` — the ends.
-/

namespace RowMapper

open Sql

/-- A query on the entities of a type. -/
structure Selection where
  mapper : Mapper
  type : EntityType
  descriptor : Descriptor
  dialect : Dialect
  /-- Conditions that all hold of the rows. -/
  filters : List Condition
  /-- The property that orders the rows. -/
  order : Option (String × Direction)
  /-- Why the first bad filter cannot be used. -/
  fault : Option Error

/-- A query for all entities of a type. -/
def Mapper.select (mapper : Mapper) (connection : String) (type : EntityType) :
    Action Selection := do
  let descriptor ← mapper.describe type
  return ⟨mapper, type, descriptor, mapper.dialectFor connection, [], none, none⟩

namespace Selection

/-- Adds a filter if a condition holds. -/
def whereIf (selection : Selection) (condition : Bool) (predicate : Predicate) : Selection :=
  if !condition || selection.fault.isSome then selection
  else
    match Filter.compile ⟨selection.descriptor, selection.dialect⟩ predicate with
    | .ok filter => { selection with filters := selection.filters ++ [filter] }
    | .error fault => { selection with fault := some fault }

/-- Orders the rows by a property. -/
def orderBy (selection : Selection) (property : String) (direction : Direction) : Selection :=
  { selection with order := some (property, direction) }

/-- Fails if a filter was bad. -/
def check (selection : Selection) : Except Error Unit :=
  match selection.fault with
  | some fault => .error fault
  | none => .ok ()

theorem check_eq_ok {selection : Selection} (h : selection.fault = none) :
    selection.check = .ok () := by
  rw [check, h]

theorem check_eq_error {selection : Selection} {fault : Error} (h : selection.fault = some fault) :
    selection.check = .error fault := by
  rw [check, h]

/-- The rows of the filtered table, projected and ordered. -/
def select (selection : Selection) (projection : Projection)
    (order : List (Ident × Direction)) : Select :=
  ⟨projection, .plain selection.descriptor.table, selection.filters, order⟩

/-- The order asked for, else that of the type. -/
def sort (selection : Selection) (kind : String) : Except Error (Property × Direction) :=
  match selection.order with
  | some (name, direction) => do
    let property ← selection.descriptor.property name
    return (property, direction)
  | none =>
    match selection.descriptor.defaultSort with
    | some property => .ok (property, .ascending)
    | none => .error (.invalidOperation (.unordered kind selection.descriptor.entity))

/-- The rows of a list of tokens. -/
def rows (selection : Selection) (tokens : List Token) : Action (List Row) := do
  selection.mapper.query (← Query.build selection.dialect.style tokens)

/-- The entity of a row. -/
def entity (selection : Selection) (row : Row) : Except Error Record :=
  selection.type.fromRow selection.mapper.own row

/-- The entities of rows. -/
def entities (selection : Selection) (rows : List Row) : Except Error (List Record) :=
  rows.mapM selection.entity

/-- The page of the rows in an order. -/
def page (selection : Selection) (property : Property) (direction : Direction)
    (window : Window) : Page :=
  { table := selection.descriptor.table
    filters := selection.filters
    orderColumn := selection.dialect.column property.column
    direction
    window }

/-- The rows of a page. -/
def pageRows (selection : Selection) (property : Property) (direction : Direction)
    (window : Window) : Action (List Row) :=
  selection.rows ((selection.page property direction window).tokens selection.dialect.style.paging)

/-- The number of rows; a negative answer counts as zero. -/
def countRows (selection : Selection) : Action UInt64 := do
  let rows ← selection.rows (selection.select .count []).tokens
  match rows.head?.bind Row.first? with
  | none => return 0
  | some d =>
    let count ← d.identity
    return UInt64.ofNat count.toNat

/-- All entities. -/
def fetch (selection : Selection) : Action (List Record) := do
  selection.check
  let order ← match selection.order with
    | none => pure []
    | some (name, direction) =>
      let property ← selection.descriptor.property name
      pure [(selection.dialect.column property.column, direction)]
  let rows ← selection.rows (selection.select .star order).tokens
  selection.entities rows

/-- The number of entities. -/
def count (selection : Selection) : Action UInt64 := do
  selection.check
  selection.countRows

/-- A page by its number, counted from one, with the number of all entities. -/
def fetchPage (selection : Selection) (page perPage : UInt64) : Action (PagedList Record) := do
  selection.check
  let page := max page 1
  let perPage := max perPage 1
  let (property, direction) ← selection.sort "paged"
  let total ← selection.countRows
  let rows ← selection.pageRows property direction (.page page perPage)
  return ⟨← selection.entities rows, page, perPage, total⟩

/-- The cursor that goes on after a row. -/
def cursorOf (row : Row) (sort : Property) : Except Error String :=
  match row.get? sort.column with
  | some d =>
    if d.isNull then .error (.invalidOperation (.nullSortValue sort.name))
    else .ok (Cursor.encode d)
  | none => .error (.invalidOperation (.nullSortValue sort.name))

/-- The selection of the rows after a cursor. -/
def after (selection : Selection) (sort : Property) (direction : Direction) :
    Option String → Except Error Selection
  | none => .ok selection
  | some token => do
    let d ← Cursor.decode token
    let comparison := match direction with
      | .ascending => Comparison.gt
      | .descending => Comparison.lt
    let condition := .compare (selection.dialect.column sort.column) comparison d.toValue
    return { selection with filters := selection.filters ++ [condition] }

/-- The page after a cursor, or the first one.  One row more than the page holds tells whether
another page follows. -/
def fetchCursor (selection : Selection) (cursor : Option String) (pageSize : UInt64) :
    Action (CursorPage Record) := do
  selection.check
  let pageSize := max pageSize 1
  let (property, direction) ← selection.sort "cursor"
  let selection ← selection.after property direction cursor
  let rows ← selection.pageRows property direction ⟨0, saturatingAdd pageSize 1⟩
  let hasNext : Bool := pageSize.toNat < rows.length
  let kept := rows.take pageSize.toNat
  let next ← match kept.getLast? with
    | some last => if hasNext then some <$> cursorOf last property else pure none
    | none => pure none
  return ⟨← selection.entities kept, pageSize, hasNext, next⟩

end Selection

end RowMapper

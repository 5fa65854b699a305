import RowMapper.Proofs.Entity.Provision
import RowMapper.Proofs.Mapper.Caching

/-!
# Operations of a mapper

Everything that can be asked of a mapper, and what may come of it.

* `SelectionStep`, `SelectionEnd` — how a selection is put together, and what is made of its rows;
* `Operation`, `Operation.action` — the operations, with their results, and how they go;
* `Operation.type`, `connection`, `entities?`, `inserted` — what an operation is about;
* `Operation.Writes`, `Operation.MaySend` — the statements that an operation may send;
* `Operation.Wants` — the error that an entity of an operation has not all its values.

### What is left open

Which statements an operation sends depends on the keys of its type, on the values of its entities
and on what is answered.  `Operation.Writes` leaves all of this open where nothing is said of it: it
gives the form of a statement, its table and its columns, and for the insert of an entity the values
as well.
-/

namespace RowMapper

open Sql

/-- As many values are taken as there are properties. -/
theorem length_of_takeValues {entity : String} {values : List (String × Value)}
    {properties : List Property} {vs : List Value}
    (h : takeValues entity values properties = .ok vs) : vs.length = properties.length := by
  induction properties generalizing values vs with
  | nil =>
      obtain rfl := Except.ok.inj h
      rfl
  | cons property rest ih =>
      rw [takeValues] at h
      split at h
      · cases h
      · obtain ⟨others, hothers, h⟩ := exists_of_bind_eq_ok h
        obtain rfl := Except.ok.inj h
        rw [List.length_cons, List.length_cons, ih hothers]

/-- An update has the values of its columns and those of its keys. -/
theorem length_append_of_takeValues {entity : String} {values : List (String × Value)}
    {columns keys : List Property} {assigned identifying : List Value}
    (hassigned : takeValues entity values columns = .ok assigned)
    (hidentifying : takeValues entity values keys = .ok identifying) :
    (assigned ++ identifying).length = columns.length + keys.length := by
  rw [List.length_append, length_of_takeValues hassigned, length_of_takeValues hidentifying]

/-! ### Operations -/

/-- A step in putting a selection together. -/
inductive SelectionStep where
  | restrict (condition : Bool) (predicate : Predicate)
  | order (property : String) (direction : Direction)

/-- The selection after a step. -/
def SelectionStep.apply (selection : Selection) : SelectionStep → Selection
  | restrict condition predicate => selection.whereIf condition predicate
  | order property direction => selection.orderBy property direction

namespace Selection

/-- A filter changes the filters, or is a fault. -/
theorem exists_whereIf (selection : Selection) (condition : Bool) (predicate : Predicate) :
    ∃ filters fault, selection.whereIf condition predicate = { selection with filters, fault } := by
  rw [whereIf]
  split
  · exact ⟨_, _, rfl⟩
  · split <;> exact ⟨_, _, rfl⟩

/-- Steps change nothing but the filters, the order and the fault. -/
theorem exists_foldl_apply (selection : Selection) (steps : List SelectionStep) :
    ∃ filters order fault, steps.foldl SelectionStep.apply selection =
      { selection with filters, order, fault } := by
  induction steps generalizing selection with
  | nil => exact ⟨_, _, _, rfl⟩
  | cons step steps ih =>
      obtain ⟨filters, order, fault, h⟩ := ih (step.apply selection)
      refine ⟨filters, order, fault, h.trans ?_⟩
      cases step with
      | order property direction => rfl
      | restrict condition predicate =>
          obtain ⟨_, _, hstep⟩ := selection.exists_whereIf condition predicate
          rw [SelectionStep.apply, hstep]

end Selection

/-- What is made of the rows of a selection. -/
inductive SelectionEnd where
  | entities
  | count
  | page (number perPage : UInt64)
  | cursor (token : Option String) (pageSize : UInt64)

namespace SelectionEnd

/-- What the end of a selection answers. -/
def Result : SelectionEnd → Type
  | entities => List Record
  | count => UInt64
  | page _ _ => PagedList Record
  | cursor _ _ => CursorPage Record

/-- The end of a selection, as an action. -/
def action (selection : Selection) : (ending : SelectionEnd) → Action ending.Result
  | entities => selection.fetch
  | count => selection.count
  | page number perPage => selection.fetchPage number perPage
  | cursor token pageSize => selection.fetchCursor token pageSize

end SelectionEnd

/-- What can be asked of a mapper.  The text is the name of the type of the connection. -/
inductive Operation where
  | get (connection : String) (type : EntityType) (id : Value)
  | getAll (connection : String) (type : EntityType)
  | insert (connection : String) (type : EntityType) (record : Record)
  | insertMany (connection : String) (type : EntityType) (records : List Record)
  | update (connection : String) (type : EntityType) (record : Record)
  | updateTracked (connection : String) (tracked : Tracked)
  | delete (connection : String) (type : EntityType) (record : Record)
  | deleteMany (connection : String) (type : EntityType) (records : List Record)
  | deleteAll (connection : String) (type : EntityType)
  | select (connection : String) (type : EntityType) (steps : List SelectionStep)
    (ending : SelectionEnd)

namespace Operation

/-- What an operation answers. -/
def Result : Operation → Type
  | get .. => Option Record
  | getAll .. => List Record
  | insert .. => Int
  | insertMany .. => Int
  | update .. => Bool
  | updateTracked .. => Bool × Tracked
  | delete .. => Bool
  | deleteMany .. => Bool
  | deleteAll .. => Bool
  | select _ _ _ ending => ending.Result

/-- The operation of a mapper, as an action. -/
def action (mapper : Mapper) : (operation : Operation) → Action operation.Result
  | get connection type id => mapper.get connection type id
  | getAll connection type => mapper.getAll connection type
  | insert connection type record => mapper.insert connection type record
  | insertMany connection type records => mapper.insertMany connection type records
  | update connection type record => mapper.update connection type record
  | updateTracked connection tracked => (mapper.updateTracked connection).holding tracked
  | delete connection type record => mapper.delete connection type record
  | deleteMany connection type records => mapper.deleteMany connection type records
  | deleteAll connection type => mapper.deleteAll connection type
  | select connection type steps ending => do
    let selection ← mapper.select connection type
    ending.action (steps.foldl SelectionStep.apply selection)

/-- A selection goes on from the descriptor of its type. -/
theorem action_select (mapper : Mapper) (connection : String) (type : EntityType)
    (steps : List SelectionStep) (ending : SelectionEnd) :
    (select connection type steps ending).action mapper =
      mapper.describe type >>= fun descriptor => ending.action (steps.foldl SelectionStep.apply
        ⟨mapper, type, descriptor, mapper.dialectFor connection, [], none, none⟩) := by
  rw [action, Mapper.select, bind_assoc]
  simp only [pure_bind]
  rfl

end Operation

/-! ### What operations are about -/

/-- Whether an error says that an entity has no value for a property. -/
def Error.wantsValue : Error → Bool
  | invalidOperation (.missingValue ..) => true
  | _ => false

namespace Operation

/-- The type that an operation is about. -/
def type : Operation → EntityType
  | get _ type _ | getAll _ type | insert _ type _ | insertMany _ type _ | update _ type _
  | delete _ type _ | deleteMany _ type _ | deleteAll _ type | select _ type _ _ => type
  | updateTracked _ tracked => tracked.type

/-- The type of the connection that an operation goes over. -/
def connection : Operation → String
  | get connection _ _ | getAll connection _ | insert connection _ _ | insertMany connection _ _
  | update connection _ _ | updateTracked connection _ | delete connection _ _
  | deleteMany connection _ _ | deleteAll connection _ | select connection _ _ _ => connection

/-- The entities whose values an operation asks for. -/
def entities? : Operation → Option (List Record)
  | insert _ _ record | update _ _ record | delete _ _ record => some [record]
  | insertMany _ _ records | deleteMany _ _ records => some records
  | updateTracked _ tracked => some [tracked.record]
  | get .. | getAll .. | deleteAll .. | select .. => none

/-- How many entities an operation inserts, if it is one that inserts. -/
def inserted : Operation → Option Nat
  | insert .. => some 1
  | insertMany _ _ records => some records.length
  | _ => none

/-- An error over a missing value is that of an entity of the operation, which was asked for
properties that a statement may ask for. -/
def Wants (mapper : Mapper) (operation : Operation) (e : Error) : Prop :=
  ∀ records, operation.entities? = some records →
    ∃ record ∈ records, ∃ properties,
      (Descriptor.build mapper.tableRule operation.type).Asks properties ∧
        operation.type.valuesOf record properties = .error e

end Operation

/-! ### What operations send -/

/-- The statements of a selection, as tokens. -/
inductive Selection.Writes (selection : Selection) : List Token → Prop where
  | count : Writes selection (selection.select .count []).tokens
  | rows {order : List (Ident × Direction)}
      (horder : ∀ entry ∈ order, ∃ column, entry.1 = selection.dialect.column column) :
      Writes selection (selection.select .star order).tokens
  /-- A page by its number has no cursor. -/
  | page {sort : Property} {direction : Direction} {cursor : Option String} {later : Selection}
      (hlater : selection.after sort direction cursor = .ok later) (window : Window) :
      Writes selection
        ((later.page sort direction window).tokens selection.dialect.style.paging)

namespace Operation

section Writes

variable (mapper : Mapper)

/-- The statements of an operation, as tokens. -/
inductive Writes : Operation → List Token → Prop where
  | get {connection : String} {type : EntityType} {id : Value} (key : Property) :
      Writes (.get connection type id)
        (Mapper.rowsWhere (Descriptor.build mapper.tableRule type).table
          (matching [((mapper.dialectFor connection).column key.column, id)])).tokens
  | getAll {connection : String} {type : EntityType} :
      Writes (.getAll connection type)
        (Mapper.rowsWhere (Descriptor.build mapper.tableRule type).table []).tokens
  /-- Of the answer of an insert at most a column is asked for. -/
  | insert {connection : String} {type : EntityType} {record : Record} {vs : List Value}
      {returning : Returning}
      (hvs : type.valuesOf record (Descriptor.build mapper.tableRule type).insertable = .ok vs)
      (hreturning : ∀ name, returning = .column name →
        ∃ column, name = (mapper.dialectFor connection).column column) :
      Writes (.insert connection type record)
        ((Mapper.insertOf (Descriptor.build mapper.tableRule type) (mapper.dialectFor connection)
          [vs]).tokens returning)
  | insertMany {connection : String} {type : EntityType} {records : List Record}
      (rows : List (List Value)) :
      Writes (.insertMany connection type records)
        ((Mapper.insertOf (Descriptor.build mapper.tableRule type) (mapper.dialectFor connection)
          rows).tokens .nothing)
  | update {connection : String} {type : EntityType} {record : Record}
      (columns keys : List Property) (vs : List Value) :
      Writes (.update connection type record)
        (Mapper.updateOf (mapper.dialectFor connection)
          (Descriptor.build mapper.tableRule type).table columns keys vs).tokens
  | updateTracked {connection : String} {tracked : Tracked} (columns keys : List Property)
      (vs : List Value) :
      Writes (.updateTracked connection tracked)
        (Mapper.updateOf (mapper.dialectFor connection)
          (Descriptor.build mapper.tableRule tracked.type).table columns keys vs).tokens
  | delete {connection : String} {type : EntityType} {record : Record} (keys : List Property)
      (vs : List Value) :
      Writes (.delete connection type record)
        (Delete.tokens ⟨(Descriptor.build mapper.tableRule type).table,
          (Mapper.keyMatch? (mapper.dialectFor connection) keys vs).toList⟩)
  | deleteMany {connection : String} {type : EntityType} {records : List Record}
      {conditions : List (Option Condition)}
      (hconditions : ∀ condition ∈ conditions, ∃ keys vs,
        condition = Mapper.keyMatch? (mapper.dialectFor connection) keys vs) :
      Writes (.deleteMany connection type records)
        (Delete.tokens ⟨(Descriptor.build mapper.tableRule type).table,
          (Condition.joinAll? .or (conditions.filterMap id)).toList⟩)
  | deleteAll {connection : String} {type : EntityType} :
      Writes (.deleteAll connection type)
        (Delete.tokens ⟨(Descriptor.build mapper.tableRule type).table, []⟩)
  | select {connection : String} {type : EntityType} {steps : List SelectionStep}
      {ending : SelectionEnd} {tokens : List Token}
      (h : (steps.foldl SelectionStep.apply ⟨mapper, type, Descriptor.build mapper.tableRule type,
        mapper.dialectFor connection, [], none, none⟩).Writes tokens) :
      Writes (.select connection type steps ending) tokens

/-- The queries that an operation may send.  What asks for the key that an insert generated stands
behind the text of the insert, or is a query of its own. -/
inductive MaySend (operation : Operation) : Query → Prop where
  | built {tokens : List Token} {query : Query} (h : operation.Writes mapper tokens)
      (hbuild : Query.build (mapper.dialectFor operation.connection).style tokens = .ok query) :
      MaySend operation query
  | appended {tokens : List Token} {query : Query} {table : String} {columns : List String}
      {sql : String} (h : operation.Writes mapper tokens)
      (hbuild : Query.build (mapper.dialectFor operation.connection).style tokens = .ok query)
      (hread : (mapper.dialectFor operation.connection).readBack table columns = .appended sql) :
      MaySend operation { query with sql := query.sql ++ sql }
  | alone {table : String} {columns : List String} {sql : String}
      (hread : (mapper.dialectFor operation.connection).readBack table columns = .statement sql) :
      MaySend operation (Query.raw sql)

end Writes

end Operation

end RowMapper

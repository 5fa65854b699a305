import RowMapper.Entity.Fetch

/-!
# Entity types

An `EntityType` is a type of records and how they are stored: the table, the columns of its
properties, and the part that each property plays.

* `Property`, `Field`, `EntityType` — the description of a type;
* `Record` — the contents of the properties of one entity;
* `EntityType.fromRow`, `EntityType.values` — a record from a row of the table, and the values of a
  record in the order in which its type lists them.
-/

namespace RowMapper

/-- How a property is stored. -/
structure Property where
  name : String
  column : String
  /-- The type as its declaration spells it, without blanks. -/
  typeText : String
  /-- A key that the database generates. -/
  key : Bool
  /-- A key that callers provide. -/
  explicitKey : Bool
  /-- The database computes the value. -/
  computed : Bool
  /-- The value is written once, when the entity is inserted. -/
  ignoreUpdate : Bool
  /-- Whether the property is stored at all. -/
  write : Bool
  deriving DecidableEq, Repr

/-- A property with the type of its content. -/
structure Field where
  property : Property
  type : FieldType
  deriving DecidableEq, Repr

/-- A type of entities. -/
structure EntityType where
  name : String
  table : Option String
  /-- The property by which entities are ordered if nothing else is asked for. -/
  defaultSort : Option String
  /-- Whether the name is that of an interface, which starts with an I. -/
  interface : Bool
  fields : List Field
  /-- The properties whose values an entity provides, in its own order. -/
  provided : List String
  deriving DecidableEq, Repr

/-- The contents of the properties of an entity. -/
abbrev Record := List (String × FieldValue)

namespace Record

/-- The content of a property. -/
def get? (record : Record) (property : String) : Option FieldValue :=
  (record.find? (·.1 == property)).map (·.2)

/-- The record with a new content of a property that it has. -/
def set (record : Record) (property : String) (content : FieldValue) : Record :=
  record.map fun (name, old) => if name == property then (name, content) else (name, old)

end Record

namespace EntityType

/-- All properties of the type, stored or not. -/
def properties (type : EntityType) : List Property := type.fields.map (·.property)

/-- The content of a property of an entity that a row describes. -/
def fetchField (own : OwnTypes) (row : Row) (field : Field) :
    Except Error (String × FieldValue) := do
  if field.property.write then
    let content ← fetchColumn own row field.property.column field.property.name field.type
    return (field.property.name, content)
  else
    return (field.property.name, field.type.initial own)

/-- The record of the entity that a row describes.  Properties that are not stored are as at the
start, and the first column that does not fit is the error. -/
def fromRow (type : EntityType) (own : OwnTypes) (row : Row) : Except Error Record :=
  type.fields.mapM (fetchField own row)

/-- The values of an entity, in its own order. -/
def values (type : EntityType) (record : Record) : List (String × Value) :=
  type.provided.filterMap fun name =>
    (record.get? name).map fun content => (name, content.toValue)

end EntityType

/-- A list without the element at an index, whose place the last element takes. -/
def swapRemove {α : Type} (as : List α) (index : Nat) : List α :=
  match as.getLast? with
  | none => []
  | some last => (as.set index last).dropLast

/-- Takes the values of properties out of a list, in the order asked for.  A value is taken once,
and the last one of the list takes its place. -/
def takeValues (entity : String) :
    List (String × Value) → List Property → Except Error (List Value)
  | _, [] => .ok []
  | values, property :: rest =>
    match values.find? (·.1 == property.name) with
    | none => .error (.invalidOperation (.missingValue entity property.name))
    | some (_, value) => do
      let left := swapRemove values (values.findIdx (·.1 == property.name))
      let others ← takeValues entity left rest
      return value :: others

/-- The values that a record has for properties. -/
def EntityType.valuesOf (type : EntityType) (record : Record) (properties : List Property) :
    Except Error (List Value) :=
  takeValues type.name (type.values record) properties

end RowMapper

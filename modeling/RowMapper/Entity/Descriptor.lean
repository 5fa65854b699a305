import RowMapper.Entity.Type

/-!
# Descriptors

A `Descriptor` says how the entities of a type are stored, with everything decided: the name of the
table, which properties are keys, and which of them statements write.  Properties that are not
stored are left out.
-/

namespace RowMapper

/-- A rule that names the tables of types that name none themselves. -/
abbrev TableRule := EntityType → String

/-- How the entities of a type are stored. -/
structure Descriptor where
  entity : String
  interface : Bool
  table : String
  /-- The properties that are stored. -/
  properties : List Property
  /-- The keys that the database generates. -/
  keys : List Property
  /-- The keys that callers provide. -/
  explicitKeys : List Property
  computed : List Property
  ignoreUpdate : List Property
  defaultSort : Option Property
  deriving DecidableEq, Repr

/-- The name of the type with an s; the I in front of the name of an interface is dropped. -/
def pluralTable (type : EntityType) : String :=
  let name := type.name.toList
  let stem := match name with
    | 'I' :: rest => if type.interface then rest else name
    | _ => name
  String.ofList (stem ++ ['s'])

namespace Descriptor

/-- The keys that are generated: those marked so, and else the first property named id in any case
that is no key already. -/
def generatedKeys (properties : List Property) : List Property :=
  match properties.filter (·.key) with
  | [] =>
    (properties.find? fun p =>
      LetterCase.equalIgnoringAsciiCase p.name "id" && !p.explicitKey).toList
  | keys => keys

/-- The descriptor of a type. -/
def build (rule : TableRule) (type : EntityType) : Descriptor :=
  let stored := type.properties.filter (·.write)
  { entity := type.name
    interface := type.interface
    table := type.table.getD (rule type)
    properties := stored
    keys := generatedKeys stored
    explicitKeys := stored.filter (·.explicitKey)
    computed := stored.filter (·.computed)
    ignoreUpdate := stored.filter (·.ignoreUpdate)
    defaultSort := type.defaultSort.bind fun sort => type.properties.find? (·.name == sort) }

/-- The stored property of a name. -/
def property (descriptor : Descriptor) (name : String) : Except Error Property :=
  match descriptor.properties.find? (·.name == name) with
  | some property => .ok property
  | none => .error (.unknownProperty descriptor.entity name)

/-- All keys, the generated ones first. -/
def allKeys (descriptor : Descriptor) : List Property := descriptor.keys ++ descriptor.explicitKeys

/-- The error that the type has not as many keys as an operation needs. -/
def keyError (descriptor : Descriptor) (operation expected : String) : Error :=
  .schema operation descriptor.entity expected descriptor.keys.length
    descriptor.explicitKeys.length

/-- The only key. -/
def singleKey (descriptor : Descriptor) (operation : String) : Except Error Property :=
  match descriptor.allKeys with
  | [key] => .ok key
  | _ => .error (descriptor.keyError operation "exactly one key property")

/-- The keys, of which there is at least one. -/
def requireKeys (descriptor : Descriptor) (operation : String) : Except Error (List Property) :=
  match descriptor.allKeys with
  | [] => .error (descriptor.keyError operation "at least one key property")
  | keys => .ok keys

/-- Whether a property is a generated key. -/
def isKey (descriptor : Descriptor) (property : Property) : Bool :=
  descriptor.keys.any (·.name == property.name)

/-- The properties that an insert writes. -/
def insertable (descriptor : Descriptor) : List Property :=
  descriptor.properties.filter fun p => !descriptor.isKey p && !p.computed

/-- The properties that an update writes. -/
def updatable (descriptor : Descriptor) : List Property :=
  descriptor.properties.filter fun p =>
    !descriptor.isKey p && !p.explicitKey && !p.computed && !p.ignoreUpdate

end Descriptor

end RowMapper

import RowMapper.Declaration.Attribute
import RowMapper.Declaration.TypeText
import RowMapper.Entity.Type

/-!
# Declarations of entity types

A type of entities is declared as a structure with named fields.  Attributes with markers say how it
is stored; without any, the columns are named like the fields.

* `Declaration` — the source of a type;
* `Model`, `Declaration.model` — what a declaration means, or the first fault in it;
* `EntityType.ofModel?` — the type of entities, if the types of all fields are known.
-/

namespace RowMapper

/-- What is declared. -/
inductive Declaration.Shape where
  /-- A structure with named fields. -/
  | struct
  /-- A structure whose fields have no names. -/
  | tuple
  /-- A structure without fields. -/
  | unit
  | enumeration
  | union
  deriving DecidableEq, Repr

/-- The shape of a name. -/
def Declaration.Shape.ofName? : String → Option Shape
  | "struct" => some .struct
  | "tuple" => some .tuple
  | "unit" => some .unit
  | "enum" => some .enumeration
  | "union" => some .union
  | _ => none

/-- The source of a field. -/
structure FieldDeclaration where
  /-- The name, which attributes and a visibility may precede; a keyword has `r#` in front. -/
  name : String
  typeText : String
  attributes : List Declaration.Attribute
  deriving DecidableEq, Repr

/-- The source of a type. -/
structure Declaration where
  shape : Declaration.Shape
  /-- The name, which parameters may follow. -/
  name : String
  attributes : List Declaration.Attribute
  fields : List FieldDeclaration
  deriving DecidableEq, Repr

/-- What a declaration means. -/
structure Model where
  name : String
  table : Option String
  defaultSort : Option String
  interface : Bool
  properties : List Property
  deriving DecidableEq, Repr

namespace Declaration

/-- A marker of a type. -/
inductive TypeMarker where
  | table (name : String)
  | defaultSort (property : String)
  | interface
  deriving DecidableEq, Repr

/-- How the markers of types are written. -/
def TypeMarker.vocabulary : String → Option (Form TypeMarker)
  | "table" => some (.text table)
  | "default_sort" => some (.text defaultSort)
  | "interface" => some (.flag interface)
  | _ => none

/-- The model with what a marker says. -/
def TypeMarker.apply (model : Model) : TypeMarker → Model
  | table name => { model with table := some name }
  | defaultSort property => { model with defaultSort := some property }
  | interface => { model with interface := true }

/-- A marker of a field. -/
inductive FieldMarker where
  | key
  | explicitKey
  | computed
  | ignoreUpdate
  | write (stored : Bool)
  | column (name : String)
  deriving DecidableEq, Repr

/-- How the markers of fields are written. -/
def FieldMarker.vocabulary : String → Option (Form FieldMarker)
  | "key" => some (.flag key)
  | "explicit_key" => some (.flag explicitKey)
  | "computed" => some (.flag computed)
  | "ignore_update" => some (.flag ignoreUpdate)
  | "write" => some (.bool write)
  | "column" => some (.text column)
  | _ => none

/-- The property with what a marker says. -/
def FieldMarker.apply (property : Property) : FieldMarker → Property
  | key => { property with key := true }
  | explicitKey => { property with explicitKey := true }
  | computed => { property with computed := true }
  | ignoreUpdate => { property with ignoreUpdate := true }
  | write stored => { property with write := stored }
  | column name => { property with column := name }

/-- The words among tokens. -/
def words (tokens : List Token) : List String :=
  tokens.filterMap fun
    | .word s => some s
    | _ => none

/-- The name of a declared type: the first word, which parameters may follow. -/
def typeName (source : String) : String := (words (Token.scan source)).head?.getD source

/-- The name that a field gives to its property: the last word, without what makes a keyword a
name. -/
def plainName (source : String) : String :=
  let name := (words (Token.scan source)).getLast?.getD source
  match name.toList with
  | 'r' :: '#' :: rest => String.ofList rest
  | _ => name

/-- The attributes of a field: its own, and those in front of its name. -/
def fieldAttributes (field : FieldDeclaration) : List (List Token) :=
  field.attributes.map (·.tokens) ++ (splitAttributes (Token.scan field.name)).1

/-- A property of a field without markers. -/
def plainProperty (field : FieldDeclaration) : Property :=
  let name := plainName field.name
  ⟨name, name, TypeText.ofSource field.typeText, false, false, false, false, true⟩

/-- The property that a field declares. -/
def property (field : FieldDeclaration) : Except Fault Property := do
  let markers ← (fieldAttributes field).mapM
    (readAttribute FieldMarker.vocabulary .unsupportedFieldMarker)
  let property := markers.flatten.foldl FieldMarker.apply (plainProperty field)
  if property.key && property.explicitKey then
    throw .keyConflict
  return property

/-- The source texts in a declaration. -/
def sources (declaration : Declaration) : List String :=
  declaration.attributes.flatMap (·.sources) ++ declaration.name ::
    declaration.fields.flatMap fun field =>
      field.attributes.flatMap (·.sources) ++ [field.name, field.typeText]

/-- What a declaration means. -/
def model (declaration : Declaration) : Except Fault Model := do
  unless declaration.sources.all fun source => (Token.scan? source).isSome do
    throw .unreadable
  match declaration.shape with
  | .enumeration | .union => throw .notStruct
  | .tuple | .unit => throw .unnamedFields
  | .struct =>
    let markers ← declaration.attributes.mapM fun attr =>
      readAttribute TypeMarker.vocabulary .unsupportedTypeMarker attr.tokens
    let properties ← declaration.fields.mapM property
    let plain : Model := ⟨typeName declaration.name, none, none, false, properties⟩
    let model := markers.flatten.foldl TypeMarker.apply plain
    match model.defaultSort with
    | none => return model
    | some sort =>
      if properties.any (·.name == sort) then
        return model
      else
        throw .unknownSort

end Declaration

namespace Model

/-- The properties that are stored. -/
def stored (model : Model) : List Property := model.properties.filter (·.write)

/-- The properties whose values an entity provides. -/
def provided (model : Model) : List String := model.stored.map (·.name)

end Model

/-- The type of entities that a model describes, if the types of all its fields are known. -/
def EntityType.ofModel? (model : Model) : Option EntityType := do
  let fields ← model.properties.mapM fun property => do
    let type ← FieldType.ofSpelling? property.typeText
    return (⟨property, type⟩ : Field)
  return ⟨model.name, model.table, model.defaultSort, model.interface, fields, model.provided⟩

end RowMapper

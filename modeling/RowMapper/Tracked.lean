import RowMapper.Entity.Type
import RowMapper.Error

/-!
# Tracked entities

A `Tracked` entity knows which of its properties changed since it was last stored, so that an update
writes only those.
-/

namespace RowMapper

/-- What changed since an entity was last stored. -/
inductive Dirty where
  | clean
  /-- The named properties, in alphabetical order. -/
  | fields (names : List String)
  /-- Possibly every property. -/
  | all
  deriving DecidableEq, Repr

/-- Puts a name in its place in an alphabetical list without repetition. -/
def insertName (name : String) : List String → List String
  | [] => [name]
  | other :: rest =>
    if name < other then name :: other :: rest
    else if name = other then other :: rest
    else other :: insertName name rest

/-- What changed, after a change of one more property. -/
def Dirty.mark (name : String) : Dirty → Dirty
  | clean => fields [name]
  | fields names => fields (insertName name names)
  | all => all

/-- An entity with the changes to it. -/
structure Tracked where
  type : EntityType
  record : Record
  dirty : Dirty

namespace Tracked

/-- An entity as it is stored. -/
def start (type : EntityType) (record : Record) : Tracked := ⟨type, record, .clean⟩

/-- Whether anything changed. -/
def isDirty (tracked : Tracked) : Bool := tracked.dirty != .clean

/-- Changes the entity in the name of one property. -/
def change (tracked : Tracked) (property : String) (update : Record → Record) :
    Except Error Tracked :=
  if tracked.type.properties.any (·.name == property) then
    .ok { tracked with record := update tracked.record, dirty := tracked.dirty.mark property }
  else
    .error (.unknownProperty tracked.type.name property)

/-- Changes the entity in any way. -/
def changeAny (tracked : Tracked) (update : Record → Record) : Tracked :=
  { tracked with record := update tracked.record, dirty := .all }

/-- The entity as it is now counts as stored. -/
def markClean (tracked : Tracked) : Tracked := { tracked with dirty := .clean }

end Tracked

end RowMapper

import RowMapper.Decimal.Binary

/-!
# JSON values

A `Json` value keeps the fields of an object as a list.  A text may repeat a field or list fields in
any order; `Json.normalize` is the value it means, with the fields sorted by name and the last of
several fields of one name kept.  Numbers are integers as long as they fit in 64 bits, signed or
unsigned, and double precision otherwise.
-/

namespace RowMapper

/-- A number in a JSON value. -/
inductive JsonNumber where
  /-- An integer of 64 bits, signed or unsigned. -/
  | integer (n : Int)
  | double (x : Binary64)
  deriving DecidableEq, Repr

/-- A JSON value. -/
inductive Json where
  | null
  | bool (b : Bool)
  | number (n : JsonNumber)
  | string (s : String)
  | array (items : List Json)
  | object (fields : List (String × Json))
  deriving Repr, Inhabited

namespace Json

/-- Puts a field in its place in a sorted list of fields, over a field of the same name. -/
def insertField (name : String) (value : Json) : List (String × Json) → List (String × Json)
  | [] => [(name, value)]
  | (n, v) :: rest =>
    if name < n then (name, value) :: (n, v) :: rest
    else if name = n then (name, value) :: rest
    else (n, v) :: insertField name value rest

mutual

/-- The value that a text means: in every object the fields are sorted by name, and of several
fields of one name the last one counts. -/
def normalize : Json → Json
  | .array items => .array (normalizeItems items)
  | .object fields => .object (normalizeFields fields [])
  | value => value

/-- Normalizes every item of an array. -/
def normalizeItems : List Json → List Json
  | [] => []
  | item :: rest => normalize item :: normalizeItems rest

/-- Normalizes the fields of an object on top of those already in place. -/
def normalizeFields : List (String × Json) → List (String × Json) → List (String × Json)
  | [], placed => placed
  | (name, value) :: rest, placed =>
    normalizeFields rest (insertField name (normalize value) placed)

end

end Json

end RowMapper

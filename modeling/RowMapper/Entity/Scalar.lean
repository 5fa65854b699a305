import RowMapper.Value

/-!
# Scalars

A property of an entity holds one scalar, or may hold none; or it holds a value of a type that the
caller defines.

* `ScalarType` and `FieldType` — the types of properties, with the spelling that declarations use
  and the full name that messages use;
* `Scalar`, `OwnValue` and `FieldValue` — their values;
* `FieldValue.toValue` — the value as it is bound.
-/

namespace RowMapper

/-- The type of a value that is present. -/
inductive ScalarType where
  | bool
  | int32
  | int64
  | uint32
  | uint64
  | float
  | double
  | text
  | bytes
  /-- A point in time, in UTC. -/
  | instant
  /-- A date and time without a time zone. -/
  | timestamp
  | date
  | time
  | json
  deriving DecidableEq, Repr

namespace ScalarType

/-- All types. -/
def all : List ScalarType :=
  [bool, int32, int64, uint32, uint64, float, double, text, bytes, instant, timestamp, date, time,
    json]

/-- The type as declarations spell it. -/
def spelling : ScalarType → String
  | bool => "bool"
  | int32 => "i32"
  | int64 => "i64"
  | uint32 => "u32"
  | uint64 => "u64"
  | float => "f32"
  | double => "f64"
  | text => "String"
  | bytes => "Vec<u8>"
  | instant => "DateTime<Utc>"
  | timestamp => "NaiveDateTime"
  | date => "NaiveDate"
  | time => "NaiveTime"
  | json => "Json"

/-- The type as messages name it. -/
def fullName : ScalarType → String
  | bool => "bool"
  | int32 => "i32"
  | int64 => "i64"
  | uint32 => "u32"
  | uint64 => "u64"
  | float => "f32"
  | double => "f64"
  | text => "alloc::string::String"
  | bytes => "alloc::vec::Vec<u8>"
  | instant => "chrono::datetime::DateTime<chrono::offset::utc::Utc>"
  | timestamp => "chrono::naive::datetime::NaiveDateTime"
  | date => "chrono::naive::date::NaiveDate"
  | time => "chrono::naive::time::NaiveTime"
  | json => "serde_json::value::Value"

end ScalarType

/-- The type of a property. -/
inductive FieldType where
  | required (type : ScalarType)
  /-- The value may be absent. -/
  | optional (type : ScalarType)
  /-- A type of the caller's own, by its name. -/
  | own (name : String)
  /-- A value of such a type, which may be absent. -/
  | optionalOwn (name : String)
  deriving DecidableEq, Repr

namespace FieldType

/-- The type as declarations spell it. -/
def spelling : FieldType → String
  | required type => type.spelling
  | optional type => "Option<" ++ type.spelling ++ ">"
  | own name => name
  | optionalOwn name => "Option<" ++ name ++ ">"

/-- The type as messages name it. -/
def fullName : FieldType → String
  | required type => type.fullName
  | optional type => "core::option::Option<" ++ type.fullName ++ ">"
  | own name => name
  | optionalOwn name => "core::option::Option<" ++ name ++ ">"

/-- The type of a spelling, if it is no type of the caller's own. -/
def ofSpelling? (spelling : String) : Option FieldType :=
  ((ScalarType.all.map required) ++ ScalarType.all.map optional).find? (·.spelling == spelling)

end FieldType

/-- A value that is present. -/
inductive Scalar where
  | bool (v : Bool)
  | int32 (v : Int32)
  | int64 (v : Int64)
  | uint32 (v : UInt32)
  | uint64 (v : UInt64)
  | float (v : Binary32)
  | double (v : Binary64)
  | text (v : String)
  | bytes (v : List UInt8)
  | instant (v : DateTime)
  | timestamp (v : DateTime)
  | date (v : Date)
  | time (v : TimeOfDay)
  | json (v : Json)

/-- The type of a value. -/
def Scalar.type : Scalar → ScalarType
  | bool _ => .bool
  | int32 _ => .int32
  | int64 _ => .int64
  | uint32 _ => .uint32
  | uint64 _ => .uint64
  | float _ => .float
  | double _ => .double
  | text _ => .text
  | bytes _ => .bytes
  | instant _ => .instant
  | timestamp _ => .timestamp
  | date _ => .date
  | time _ => .time
  | json _ => .json

/-- The value as it is bound. -/
def Scalar.toValue : Scalar → Value
  | bool v => .bool (some v)
  | int32 v => .int (some v)
  | int64 v => .bigInt (some v)
  | uint32 v => .unsigned (some v)
  | uint64 v => .bigUnsigned (some v)
  | float v => .float (some v)
  | double v => .double (some v)
  | text v => .string (some v)
  | bytes v => .bytes (some v)
  | instant v => .instant (some v)
  | timestamp v => .timestamp (some v)
  | date v => .date (some v)
  | time v => .time (some v)
  | json v => .json (some v)

/-- The scalar that a value holds, if properties can have values of its kind. -/
def Value.toScalar? : Value → Option Scalar
  | bool v => v.map .bool
  | int v => v.map .int32
  | bigInt v => v.map .int64
  | unsigned v => v.map .uint32
  | bigUnsigned v => v.map .uint64
  | float v => v.map .float
  | double v => v.map .double
  | string v => v.map .text
  | bytes v => v.map .bytes
  | instant v => v.map .instant
  | timestamp v => v.map .timestamp
  | date v => v.map .date
  | time v => v.map .time
  | json v => v.map .json
  | _ => none

@[simp] theorem Scalar.toScalar?_toValue (s : Scalar) : s.toValue.toScalar? = some s := by
  cases s <;> rfl

/-- The value of a type that properties start with. -/
def ScalarType.initial : ScalarType → Scalar
  | bool => .bool false
  | int32 => .int32 0
  | int64 => .int64 0
  | uint32 => .uint32 0
  | uint64 => .uint64 0
  | float => .float ⟨0⟩
  | double => .double ⟨0⟩
  | text => .text ""
  | bytes => .bytes []
  | instant => .instant ⟨.epoch, .midnight⟩
  | timestamp => .timestamp ⟨.epoch, .midnight⟩
  | date => .date .epoch
  | time => .time .midnight
  | json => .json .null

/-- NULL of the kind as which values of a type are bound. -/
def ScalarType.null : ScalarType → Value
  | bool => .bool none
  | int32 => .int none
  | int64 => .bigInt none
  | uint32 => .unsigned none
  | uint64 => .bigUnsigned none
  | float => .float none
  | double => .double none
  | text => .string none
  | bytes => .bytes none
  | instant => .instant none
  | timestamp => .timestamp none
  | date => .date none
  | time => .time none
  | json => .json none

/-- A value of a type of the caller's own. -/
structure OwnValue where
  /-- What tells the value from the others of its type. -/
  content : String
  /-- The value as its type binds it. -/
  bound : Value

/-- The content of a property. -/
inductive FieldValue where
  | present (value : Scalar)
  /-- No value of a type. -/
  | absent (type : ScalarType)
  | custom (value : OwnValue)

/-- The content as it is bound. -/
def FieldValue.toValue : FieldValue → Value
  | present value => value.toValue
  | absent type => type.null
  | custom value => value.bound

/-- Whether a content is of a type. -/
def FieldType.admits : FieldType → FieldValue → Bool
  | required type, .present value => value.type == type
  | optional type, .present value => value.type == type
  | optional type, .absent absent => absent == type
  | own _, .custom _ => true
  | optionalOwn _, .custom _ => true
  | _, _ => false

theorem ScalarType.type_initial (type : ScalarType) : type.initial.type = type := by
  cases type <;> rfl

end RowMapper

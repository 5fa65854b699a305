import RowMapper.Calendar.DateTime
import RowMapper.Datum
import RowMapper.Json.Printer

/-!
# Bindable values

A `Value` is what a caller binds to a placeholder: the content of a property, the constant of a
predicate, the key of a look-up.  There are more kinds of values than drivers know; `Value.toDatum`
in `RowMapper.Binding` says how each travels.
-/

namespace RowMapper

/-- A value to bind.  `none` is a NULL of its kind. -/
inductive Value where
  | bool (v : Option Bool)
  | tinyInt (v : Option Int8)
  | smallInt (v : Option Int16)
  | int (v : Option Int32)
  | bigInt (v : Option Int64)
  | tinyUnsigned (v : Option UInt8)
  | smallUnsigned (v : Option UInt16)
  | unsigned (v : Option UInt32)
  | bigUnsigned (v : Option UInt64)
  | float (v : Option Binary32)
  | double (v : Option Binary64)
  | string (v : Option String)
  | char (v : Option Char)
  | bytes (v : Option (List UInt8))
  | json (v : Option Json)
  | date (v : Option Date)
  | time (v : Option TimeOfDay)
  /-- A date and time without a time zone. -/
  | timestamp (v : Option DateTime)
  /-- A point in time, in UTC. -/
  | instant (v : Option DateTime)
  /-- A date and time with its own distance from UTC. -/
  | zoned (v : Option OffsetDateTime)

namespace Value

/-- The name of the value's kind in messages. -/
def tag : Value → String
  | bool _ => "Bool"
  | tinyInt _ => "TinyInt"
  | smallInt _ => "SmallInt"
  | int _ => "Int"
  | bigInt _ => "BigInt"
  | tinyUnsigned _ => "TinyUnsigned"
  | smallUnsigned _ => "SmallUnsigned"
  | unsigned _ => "Unsigned"
  | bigUnsigned _ => "BigUnsigned"
  | float _ => "Float"
  | double _ => "Double"
  | string _ => "String"
  | char _ => "Char"
  | bytes _ => "Bytes"
  | json _ => "Json"
  | date _ => "ChronoDate"
  | time _ => "ChronoTime"
  | timestamp _ => "ChronoDateTime"
  | instant _ => "ChronoDateTimeUtc"
  | zoned _ => "ChronoDateTimeWithTimeZone"

/-- The content of the value as messages show it. -/
def describeContent : Value → String
  | bool v => describeOption toString v
  | tinyInt v => describeOption (fun n => toString n.toInt) v
  | smallInt v => describeOption (fun n => toString n.toInt) v
  | int v => describeOption (fun n => toString n.toInt) v
  | bigInt v => describeOption (fun n => toString n.toInt) v
  | tinyUnsigned v => describeOption (fun n => toString n.toNat) v
  | smallUnsigned v => describeOption (fun n => toString n.toNat) v
  | unsigned v => describeOption (fun n => toString n.toNat) v
  | bigUnsigned v => describeOption (fun n => toString n.toNat) v
  | float v => describeOption (·.write messageStyle) v
  | double v => describeOption (·.write messageStyle) v
  | string v => describeOption Quoted.text v
  | char v => describeOption Quoted.char v
  | bytes v => describeOption describeBytes v
  | json v => describeOption Json.describe v
  | date v => describeOption (fun d => String.ofList d.write) v
  | time v => describeOption (fun t => String.ofList t.write) v
  | timestamp v => describeOption (fun t => String.ofList (t.writeWith 'T')) v
  | instant v => describeOption (fun t => String.ofList (t.writeWith 'T') ++ "Z") v
  | zoned v => describeOption (fun t => String.ofList t.write) v

/-- The value as messages show it: its kind, and its content or the lack of one. -/
def describe (v : Value) : String := v.tag ++ "(" ++ v.describeContent ++ ")"

end Value

end RowMapper

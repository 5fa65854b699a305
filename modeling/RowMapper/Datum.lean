import RowMapper.Decimal.Shortest
import RowMapper.Text.Quoted

/-!
# Data

A `Datum` is one SQL value as it travels between the library and a database driver.  Every kind can
be NULL, which is `none`.  Dates and times travel as text.
-/

namespace RowMapper

/-- One SQL value exchanged with a driver. -/
inductive Datum where
  | boolean (v : Option Bool)
  | int32 (v : Option Int32)
  | int64 (v : Option Int64)
  | uint32 (v : Option UInt32)
  | uint64 (v : Option UInt64)
  | float (v : Option Binary32)
  | double (v : Option Binary64)
  | str (v : Option String)
  | binary (v : Option (List UInt8))
  | date (v : Option String)
  | time (v : Option String)
  | timestamp (v : Option String)
  deriving DecidableEq, Repr

/-- How messages lay out floating-point numbers: with an exponent from 1e16 on and below 1e-4. -/
def messageStyle : DecimalStyle := ⟨16, -4, "", .up⟩

/-- A value that may be absent, as messages show it. -/
def describeOption {α : Type} (describe : α → String) : Option α → String
  | none => "None"
  | some a => "Some(" ++ describe a ++ ")"

/-- A list of bytes, as messages show it. -/
def describeBytes (bytes : List UInt8) : String :=
  "[" ++ ", ".intercalate (bytes.map fun b => toString b.toNat) ++ "]"

namespace Datum

/-- Whether the datum is NULL. -/
def isNull : Datum → Bool
  | boolean v => v.isNone
  | int32 v => v.isNone
  | int64 v => v.isNone
  | uint32 v => v.isNone
  | uint64 v => v.isNone
  | float v => v.isNone
  | double v => v.isNone
  | str v => v.isNone
  | binary v => v.isNone
  | date v => v.isNone
  | time v => v.isNone
  | timestamp v => v.isNone

/-- The name of the datum's kind in messages. -/
def typeName : Datum → String
  | boolean _ => "boolean"
  | int32 _ => "int32"
  | int64 _ => "int64"
  | uint32 _ => "uint32"
  | uint64 _ => "uint64"
  | float _ => "float"
  | double _ => "double"
  | str _ => "str"
  | binary _ => "binary"
  | date _ => "date"
  | time _ => "time"
  | timestamp _ => "timestamp"

/-- The name of the datum's kind in encoded form. -/
def tag : Datum → String
  | boolean _ => "Boolean"
  | int32 _ => "Int32"
  | int64 _ => "Int64"
  | uint32 _ => "Uint32"
  | uint64 _ => "Uint64"
  | float _ => "Float"
  | double _ => "Double"
  | str _ => "Str"
  | binary _ => "Binary"
  | date _ => "Date"
  | time _ => "Time"
  | timestamp _ => "Timestamp"

/-- The content of the datum as messages show it. -/
def describeContent : Datum → String
  | boolean v => describeOption toString v
  | int32 v => describeOption (fun n => toString n.toInt) v
  | int64 v => describeOption (fun n => toString n.toInt) v
  | uint32 v => describeOption (fun n => toString n.toNat) v
  | uint64 v => describeOption (fun n => toString n.toNat) v
  | float v => describeOption (·.write messageStyle) v
  | double v => describeOption (·.write messageStyle) v
  | binary v => describeOption describeBytes v
  | str v | date v | time v | timestamp v => describeOption Quoted.text v

/-- The datum as messages show it: its kind, and its content or the lack of one. -/
def describe (d : Datum) : String := d.tag ++ "(" ++ d.describeContent ++ ")"

end Datum

end RowMapper

import RowMapper.Calendar.Reader
import RowMapper.Entity.Scalar
import RowMapper.Error
import RowMapper.Json.Parser
import RowMapper.Row
import RowMapper.Text.CharClass.Blank

/-!
# Fetching

How the data of a row become the contents of properties.  Drivers may answer another kind than the
one that was bound, so a type takes every kind that can carry its values: integers of every width as
long as they fit, times as text, JSON as text or bytes.  A datum that does not fit is an error,
never a changed value.  A type of the caller's own brings its own way to be fetched.

* `ScalarType.fetch` — a datum as a value of a type;
* `OwnType`, `OwnTypes` — the types of the caller's own, by their names;
* `FieldType.fetch` — a column of a row as the content of a property;
* `fetchColumn` — the same with an error that names the property;
* `Datum.identity` — a generated key or a count that a database answered.
-/

namespace RowMapper

namespace Datum

/-- The whole number that a datum holds, if it is an integer or a truth value. -/
def integer? : Datum → Option Int
  | .int32 (some n) => some n.toInt
  | .int64 (some n) => some n.toInt
  | .uint32 (some n) => some n.toNat
  | .uint64 (some n) => some n.toNat
  | .boolean (some b) => some (if b then 1 else 0)
  | _ => none

/-- The integer of a datum, if it fits into 64 bits with a sign. -/
def fetchInt64 (d : Datum) : Except FetchFault Int :=
  match d.integer? with
  | none => .error (.expected "integer")
  | some n => if IntRange.int64.contains n then .ok n else .error (.outOfRange n "i64")

/-- The integer of a datum in a range.  It has to pass through 64 bits with a sign. -/
def fetchInt (range : IntRange) (type : String) (d : Datum) : Except FetchFault Int := do
  let n ← d.fetchInt64
  if range.contains n then .ok n else .error (.outOfRange n type)

/-- The truth value of a datum: zero is false and one is true. -/
def fetchBool : Datum → Except FetchFault Bool
  | .boolean (some b) => .ok b
  | .boolean none => .error (.expected "boolean")
  | d =>
    match d.integer? with
    | none => .error (.expected "boolean")
    | some _ => do
      let n ← d.fetchInt64
      if n = 0 then .ok false else if n = 1 then .ok true else .error (.notBoolean n)

/-- The floating-point number nearest to the number of a datum. -/
def fetchDouble : Datum → Except FetchFault Binary64
  | .double (some x) => .ok x
  | .float (some x) => .ok x.toBinary64
  | .int32 (some n) => .ok (.ofInt n.toInt)
  | .uint32 (some n) => .ok (.ofInt n.toNat)
  | .int64 (some n) => .ok (.ofInt n.toInt)
  | .uint64 (some n) => .ok (.ofInt n.toNat)
  | _ => .error (.expected "floating point")

/-- The text of a datum. -/
def fetchText : Datum → Except FetchFault String
  | .str (some s) | .date (some s) | .time (some s) | .timestamp (some s) => .ok s
  | _ => .error (.expected "string")

/-- The point in time that a text means: with a distance from UTC, or in UTC without one. -/
def readInstant? (text : String) : Option DateTime :=
  match (OffsetDateTime.read? text).bind OffsetDateTime.toUtc? with
  | some t => some t
  | none => DateTime.read? text

/-- The point in time of a datum. -/
def fetchInstant : Datum → Except FetchFault DateTime
  | .timestamp (some s) | .str (some s) =>
    match readInstant? s with
    | some t => .ok t
    | none => .error (.badTimestamp s)
  | _ => .error (.expected "timestamp")

/-- The date of a datum. -/
def fetchDate : Datum → Except FetchFault Date
  | .date (some s) | .str (some s) =>
    match Date.read? s with
    | some d => .ok d
    | none => .error (.badDate s)
  | _ => .error (.expected "date")

/-- The time of day of a datum. -/
def fetchTime : Datum → Except FetchFault TimeOfDay
  | .time (some s) | .str (some s) =>
    match TimeOfDay.read? s with
    | some t => .ok t
    | none => .error (.badTime s)
  | _ => .error (.expected "time")

/-- The JSON value of a datum. -/
def fetchJson : Datum → Except FetchFault Json
  | .str (some s) =>
    match Json.read? s with
    | some value => .ok value
    | none => .error .badJson
  | .binary (some bytes) =>
    match (String.fromUTF8? ⟨bytes.toArray⟩).bind Json.read? with
    | some value => .ok value
    | none => .error .badJson
  | _ => .error (.expected "json compatible")

/-- A generated key or a count that a database answered.  NULL counts as zero, and a floating-point
number is rounded. -/
def identity (d : Datum) : Except Error Int :=
  if d.isNull then .ok 0
  else
    match d with
    | .double (some x) => .ok x.toInt64
    | .str (some text) =>
      match Decimal.readInt64 (trimBlank text.toList) with
      | .ok n => .ok n
      | .error fault => .error (.invalidOperation (.badIdentity text fault))
    | d =>
      match d.fetchInt64 with
      | .ok n => .ok n
      | .error fault => .error (.database fault.message)

end Datum

/-- A datum as a value of a type. -/
def ScalarType.fetch (d : Datum) : ScalarType → Except FetchFault Scalar
  | .bool => .bool <$> d.fetchBool
  | .int32 => (.int32 ∘ Int32.ofInt) <$> d.fetchInt .int32 "i32"
  | .int64 => (.int64 ∘ Int64.ofInt) <$> d.fetchInt64
  | .uint32 => (.uint32 ∘ UInt32.ofNat ∘ Int.toNat) <$> d.fetchInt .uint32 "u32"
  | .uint64 =>
    match d with
    | .uint64 (some n) => .ok (.uint64 n)
    | d => (.uint64 ∘ UInt64.ofNat ∘ Int.toNat) <$> d.fetchInt .uint64 "u64"
  | .float =>
    match d with
    | .float (some x) => .ok (.float x)
    | d => (.float ∘ Binary64.toBinary32) <$> d.fetchDouble
  | .double => .double <$> d.fetchDouble
  | .text => .text <$> d.fetchText
  | .bytes =>
    match d with
    | .binary (some content) => .ok (.bytes content)
    | _ => .error (.expected "binary")
  | .instant => .instant <$> d.fetchInstant
  | .timestamp => .timestamp <$> d.fetchInstant
  | .date => .date <$> d.fetchDate
  | .time => .time <$> d.fetchTime
  | .json => .json <$> d.fetchJson

/-- A type of the caller's own. -/
structure OwnType where
  /-- The value that a row has under the name of a column.  The whole row is handed over. -/
  fetch : Row → String → Except FetchFault OwnValue
  /-- The value that properties start with. -/
  initial : OwnValue
  /-- No value of the type, where there may be none. -/
  absent : OwnValue

/-- The types of the caller's own, by their names. -/
abbrev OwnTypes := String → OwnType

/-- No type of the caller's own is known, and nothing is fetched. -/
def OwnTypes.unknown : OwnTypes := fun name =>
  ⟨fun _ _ => .error (.own ("no type " ++ name)), ⟨"", .string none⟩, ⟨"", .string none⟩⟩

/-- The datum of a column, which the row has to have. -/
def Row.field (row : Row) (column : String) : Except FetchFault Datum :=
  match row.get? column with
  | some d => .ok d
  | none => .error (.missingColumn column)

theorem Row.field_of_get? {row : Row} {column : String} {d : Datum}
    (h : row.get? column = some d) : row.field column = .ok d := by
  rw [field, h]

theorem Row.field_of_get?_eq_none {row : Row} {column : String} (h : row.get? column = none) :
    row.field column = .error (.missingColumn column) := by
  rw [field, h]

namespace FieldType

variable (own : OwnTypes)

/-- The content of a type that properties start with. -/
def initial : FieldType → FieldValue
  | required type => .present type.initial
  | optional type => .absent type
  | .own name => .custom (own name).initial
  | optionalOwn name => .custom (own name).absent

/-- What a property starts with is of its type. -/
theorem admits_initial (type : FieldType) : type.admits (type.initial own) = true := by
  cases type <;> simp [admits, initial, ScalarType.type_initial]

/-- The column of a row as the content of a property: NULL is no value where there may be none. -/
def fetch (row : Row) (column : String) : FieldType → Except FetchFault FieldValue
  | required type => do
    let d ← row.field column
    .present <$> type.fetch d
  | optional type => do
    let d ← row.field column
    if d.isNull then return .absent type
    .present <$> type.fetch d
  | .own name => .custom <$> (own name).fetch row column
  | optionalOwn name => do
    let d ← row.field column
    if d.isNull then return .custom (own name).absent
    .custom <$> (own name).fetch row column

section Column

variable {own : OwnTypes} {row : Row} {column : String} {d : Datum}
  (h : row.get? column = some d) (type : ScalarType)
include h

theorem fetch_required :
    (required type).fetch own row column = .present <$> type.fetch d := by
  rw [fetch, Row.field_of_get? h]
  rfl

theorem fetch_optional :
    (optional type).fetch own row column =
      if d.isNull then .ok (.absent type) else .present <$> type.fetch d := by
  rw [fetch, Row.field_of_get? h]
  rfl

end Column

end FieldType

/-- The column of a row as the content of a property.  The error has what the row holds there. -/
def fetchColumn (own : OwnTypes) (row : Row) (column property : String) (type : FieldType) :
    Except Error FieldValue :=
  match type.fetch own row column with
  | .ok content => .ok content
  | .error fault => .error (.mapping property type.fullName (row.get? column) fault)

end RowMapper

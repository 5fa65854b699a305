import RowMapper.Datum
import RowMapper.IntRange

/-!
# Storage classes

SQLite keeps a value as an integer, a floating-point number, a text or a blob, or as NULL.  Data of
many kinds share a class, and a stored value comes back as the one kind that belongs to its class.

* `Stored` — a value in its class;
* `Stored.ofDatum`, `Stored.toDatum` — a parameter as it is stored, and a column as it comes back;
* `Fault` — what a connection fails with.
-/

namespace RowMapper.Sqlite

/-- What a SQLite connection may fail with. -/
inductive Fault where
  | openFailed
  | closeFailed
  | closed
  /-- The time to wait for a lock could not be set. -/
  | timeoutFailed
  | prepareFailed
  | queryFailed
  | fetchFailed
  /-- A row has no value for a column. -/
  | columnFailed
  | execFailed
  | batchFailed
  /-- An unsigned integer that SQLite cannot keep. -/
  | outOfRange (n : UInt64)
  /-- A stored text is not valid UTF-8. -/
  | invalidText
  deriving DecidableEq, Repr

/-- The wording of a fault. -/
def Fault.message : Fault → String
  | openFailed => "failed to open SQLite database"
  | closeFailed => "failed to close SQLite database"
  | closed => "connection is closed"
  | timeoutFailed => "failed to set busy timeout"
  | prepareFailed => "failed to prepare statement"
  | queryFailed => "failed to execute query"
  | fetchFailed => "failed to fetch row"
  | columnFailed => "failed to get column value"
  | execFailed => "failed to execute statement"
  | batchFailed => "failed to execute batch"
  | outOfRange n => toString n.toNat ++ " is out of range for a SQLite integer"
  | invalidText => "invalid UTF-8 in text value"

/-- A value as SQLite keeps it. -/
inductive Stored where
  | null
  | integer (n : Int64)
  | real (x : Binary64)
  /-- A text by its bytes, which need not be valid UTF-8. -/
  | text (bytes : List UInt8)
  | blob (bytes : List UInt8)
  deriving DecidableEq, Repr

namespace Stored

/-- A text by its bytes. -/
def ofText (s : String) : Stored := text s.toByteArray.data.toList

/-- A floating-point number; an undefined one is kept as NULL. -/
def ofReal (x : Binary64) : Stored := if x.isNaN then null else real x

/-- The stored value of a datum. -/
def ofDatum : Datum → Except Fault Stored
  | .boolean (some b) => .ok (integer (if b then 1 else 0))
  | .int32 (some n) => .ok (integer n.toInt64)
  | .int64 (some n) => .ok (integer n)
  | .uint32 (some n) => .ok (integer (Int64.ofNat n.toNat))
  | .uint64 (some n) =>
    if IntRange.int64.contains n.toNat then .ok (integer (Int64.ofNat n.toNat))
    else .error (.outOfRange n)
  | .float (some x) => .ok (ofReal x.toBinary64)
  | .double (some x) => .ok (ofReal x)
  | .str (some s) | .date (some s) | .time (some s) | .timestamp (some s) => .ok (ofText s)
  | .binary (some bytes) => .ok (blob bytes)
  | _ => .ok null

/-- The datum of a stored value.  NULL comes back as a text. -/
def toDatum : Stored → Except Fault Datum
  | null => .ok (.str none)
  | integer n => .ok (.int64 (some n))
  | real x => .ok (.double (some x))
  | text bytes =>
    match String.fromUTF8? ⟨bytes.toArray⟩ with
    | some s => .ok (.str (some s))
    | none => .error .invalidText
  | blob bytes => .ok (.binary (some bytes))

end Stored

end RowMapper.Sqlite

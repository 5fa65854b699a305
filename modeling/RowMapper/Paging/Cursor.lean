import RowMapper.Error
import RowMapper.Json.Parser
import RowMapper.Json.Printer
import RowMapper.Text.Base64Url

/-!
# Cursors

A cursor is the value of the sort column in the last row of a page, as a text that can stand in a
URL: base64url over the JSON of the value, which is an object whose only field is named for the kind
of the value.
-/

namespace RowMapper.Cursor

/-- The JSON of what may be absent. -/
def writeOption {α : Type} (write : α → List Char) : Option α → List Char
  | none => Json.write .null
  | some a => write a

/-- The JSON of the content of a datum.  Numbers that are not finite are written as null. -/
def writeContent : Datum → List Char
  | .boolean v => writeOption (fun b => Json.write (.bool b)) v
  | .int32 v => writeOption (fun n => Decimal.ofInt n.toInt) v
  | .int64 v => writeOption (fun n => Decimal.ofInt n.toInt) v
  | .uint32 v => writeOption (fun n => Decimal.ofInt n.toNat) v
  | .uint64 v => writeOption (fun n => Decimal.ofInt n.toNat) v
  | .float v =>
    writeOption (fun x : Binary32 =>
      match x.magnitude with
      | .finite _ _ => (x.write Json.singleStyle).toList
      | _ => Json.write .null) v
  | .double v =>
    writeOption (fun x : Binary64 =>
      match x.magnitude with
      | .finite _ _ => (x.write Json.doubleStyle).toList
      | _ => Json.write .null) v
  | .binary v =>
    writeOption (fun bytes : List UInt8 =>
      Json.write (.array (bytes.map fun b => .number (.integer b.toNat)))) v
  | .str v | .date v | .time v | .timestamp v => writeOption Json.writeString v

/-- The JSON of a datum. -/
def write (d : Datum) : List Char :=
  '\x7b' :: Json.writeString d.tag ++ ':' :: writeContent d ++ ['\x7d']

/-- The cursor that goes on after a value. -/
def encode (d : Datum) : String :=
  String.ofList (Base64Url.encode (String.ofList (write d)).toByteArray.data.toList)

/-- What may be absent, from JSON. -/
def readOption {α : Type} (read : Json → Option α) : Json → Option (Option α)
  | .null => some none
  | content => (read content).map some

/-- An integer of a range. -/
def readInt (range : IntRange) : Json → Option Int
  | .number (.integer n) => if range.contains n then some n else none
  | _ => none

/-- A truth value. -/
def readBool : Json → Option Bool
  | .bool b => some b
  | _ => none

/-- A text. -/
def readText : Json → Option String
  | .string s => some s
  | _ => none

/-- The double precision number nearest to any number. -/
def readDouble : Json → Option Binary64
  | .number (.integer n) => some (.ofInt n)
  | .number (.double x) => some x
  | _ => none

/-- The single precision number nearest to any number. -/
def readSingle : Json → Option Binary32
  | .number (.integer n) => some (.ofInt n)
  | .number (.double x) => some x.toBinary32
  | _ => none

/-- A list of bytes. -/
def readBytes : Json → Option (List UInt8)
  | .array items => items.mapM fun item => (readInt .uint8 item).map fun n => UInt8.ofNat n.toNat
  | _ => none

/-- The datum of a kind with the given content. -/
def readContent (tag : String) (content : Json) : Option Datum :=
  match tag with
  | "Boolean" => .boolean <$> readOption readBool content
  | "Int32" =>
    (.int32 ∘ Option.map Int32.ofInt) <$> readOption (readInt .int32) content
  | "Int64" =>
    (.int64 ∘ Option.map Int64.ofInt) <$> readOption (readInt .int64) content
  | "Uint32" =>
    (.uint32 ∘ Option.map (UInt32.ofNat ∘ Int.toNat)) <$>
      readOption (readInt .uint32) content
  | "Uint64" =>
    (.uint64 ∘ Option.map (UInt64.ofNat ∘ Int.toNat)) <$>
      readOption (readInt .uint64) content
  | "Float" => .float <$> readOption readSingle content
  | "Double" => .double <$> readOption readDouble content
  | "Str" => .str <$> readOption readText content
  | "Binary" => .binary <$> readOption readBytes content
  | "Date" => .date <$> readOption readText content
  | "Time" => .time <$> readOption readText content
  | "Timestamp" => .timestamp <$> readOption readText content
  | _ => none

/-- The datum of a JSON text. -/
def read (text : List Char) : Option Datum :=
  match Json.parse? text with
  | some (.object [(tag, content)]) => readContent tag content
  | _ => none

/-- The value after which a cursor goes on. -/
def decode (token : String) : Except Error Datum :=
  match Base64Url.decode token.toList with
  | none => .error (.invalidCursor .notBase64)
  | some bytes =>
    match (String.fromUTF8? ⟨bytes.toArray⟩).bind fun text => read text.toList with
    | none => .error (.invalidCursor .noValue)
    | some d => if d.isNull then .error (.invalidCursor .nullValue) else .ok d

end RowMapper.Cursor

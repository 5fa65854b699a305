import RowMapper.Error

/-!
# Binding values

`Value.toDatum` says as which datum a value travels to the driver, and `Datum.toValue` binds a datum
of a row back.  Small integers widen, dates and times become text, and a date and time with its own
distance from UTC cannot be bound at all.  Dates and times read from a row keep the text that the
driver gave, so that they compare the way it stored them.
-/

namespace RowMapper

/-- The datum as which a value travels. -/
def Value.toDatum : Value → Except Error Datum
  | .bool v => .ok (.boolean v)
  | .tinyInt v => .ok (.int32 (v.map Int8.toInt32))
  | .smallInt v => .ok (.int32 (v.map Int16.toInt32))
  | .int v => .ok (.int32 v)
  | .bigInt v => .ok (.int64 v)
  | .tinyUnsigned v => .ok (.uint32 (v.map UInt8.toUInt32))
  | .smallUnsigned v => .ok (.uint32 (v.map UInt16.toUInt32))
  | .unsigned v => .ok (.uint32 v)
  | .bigUnsigned v => .ok (.uint64 v)
  | .float v => .ok (.float v)
  | .double v => .ok (.double v)
  | .string v => .ok (.str v)
  | .char v => .ok (.str (v.map String.singleton))
  | .bytes v => .ok (.binary v)
  | .json v => .ok (.str (v.map Json.text))
  | .date v => .ok (.date (v.map fun d => String.ofList d.write))
  | .time v => .ok (.time (v.map fun t => String.ofList t.write))
  | .timestamp v => .ok (.timestamp (v.map fun t => String.ofList t.write))
  | .instant v => .ok (.timestamp (v.map fun t => String.ofList t.writeUtc))
  | .zoned v => .error (.argument (.unbindable (.zoned v)))

/-- The data of a list of values, or the error of the first that cannot be bound. -/
def Value.toData (values : List Value) : Except Error (List Datum) := values.mapM Value.toDatum

/-- The value that binds a datum back. -/
def Datum.toValue : Datum → Value
  | .boolean v => .bool v
  | .int32 v => .int v
  | .int64 v => .bigInt v
  | .uint32 v => .unsigned v
  | .uint64 v => .bigUnsigned v
  | .float v => .float v
  | .double v => .double v
  | .binary v => .bytes v
  | .str v | .date v | .time v | .timestamp v => .string v

/-- What is read from a row can always be bound again. -/
theorem Datum.exists_toDatum_toValue (d : Datum) : ∃ b, d.toValue.toDatum = .ok b := by
  cases d <;> exact ⟨_, rfl⟩

end RowMapper

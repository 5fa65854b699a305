import RowMapper.Predicate

/-!
# Errors

Every way in which an operation can fail is a constructor, with what the message needs to say.
`Error.message` has all the wording.
-/

namespace RowMapper

/-- Why a column of a row does not fit a property. -/
inductive FetchFault where
  | missingColumn (column : String)
  /-- An integer that the named type cannot hold. -/
  | outOfRange (n : Int) (type : String)
  | notBoolean (n : Int)
  /-- A datum of another kind than the one named. -/
  | expected (kind : String)
  | badTimestamp (text : String)
  | badDate (text : String)
  | badTime (text : String)
  | badJson
  /-- A type of the caller's own does not take what the row holds. -/
  | own (message : String)
  deriving DecidableEq, Repr

/-- The wording of a misfit. -/
def FetchFault.message : FetchFault → String
  | missingColumn column => "missing column '" ++ column ++ "'"
  | outOfRange n type => toString n ++ " is out of range for " ++ type
  | notBoolean n => toString n ++ " is not a boolean"
  | expected kind => "expected " ++ kind ++ " data type"
  | badTimestamp text =>
    "unsupported timestamp: " ++ text ++
      "; expected RFC3339 or \"%Y-%m-%d %H:%M:%S%.f\" format"
  | badDate text => "unsupported date: " ++ text ++ "; expected \"%Y-%m-%d\" format"
  | badTime text => "unsupported time: " ++ text ++ "; expected \"%H:%M:%S%.f\" format"
  | badJson => "json syntax"
  | own message => message

/-- Why an operation cannot run. -/
inductive OperationFault where
  /-- A row of an insert has another number of values than there are columns. -/
  | raggedRow (table : String) (columns values : Nat)
  | missingValue (entity property : String)
  | nothingToUpdate (entity : String)
  /-- A query by pages needs an order. -/
  | unordered (query entity : String)
  /-- The value from which the next page goes on is NULL. -/
  | nullSortValue (property : String)
  | badIdentity (text : String) (fault : Decimal.IntFault)
  deriving DecidableEq, Repr

/-- The wording of a fault of an operation. -/
def OperationFault.message : OperationFault → String
  | raggedRow table columns values =>
    "insert into " ++ table ++ ": Columns and values length mismatch: " ++ toString columns ++
      " != " ++ toString values
  | missingValue entity property =>
    entity ++ " provides no value for property '" ++ property ++ "'"
  | nothingToUpdate entity => entity ++ " has no updatable properties"
  | unordered query entity =>
    query ++ " query on " ++ entity ++ " requires order_by or a default_sort property"
  | nullSortValue property =>
    "cursor paging needs a non-null '" ++ property ++ "' in every row"
  | badIdentity text fault =>
    "identity value '" ++ text ++ "' is not an integer: " ++ fault.message

/-- Why an argument cannot be used. -/
inductive ArgumentFault where
  /-- No driver can bind the value. -/
  | unbindable (value : Value)
  | nullPattern (method : Method)
  | patternNotText (method : Method) (value : Value)
  | noEntities (entity : String)

/-- The wording of a fault of an argument. -/
def ArgumentFault.message : ArgumentFault → String
  | unbindable value =>
    "unsupported parameter value " ++ value.describe ++ "; convert it before building the query"
  | nullPattern method => method.name ++ " argument must not be null"
  | patternNotText method value =>
    method.name ++ " argument must be text, got " ++ value.describe
  | noEntities entity => "no " ++ entity ++ " entities given to delete"

/-- Why a cursor cannot be used. -/
inductive CursorFault where
  | notBase64
  | noValue
  | nullValue
  deriving DecidableEq, Repr

/-- The wording of a fault of a cursor. -/
def CursorFault.message : CursorFault → String
  | notBase64 => "cursor is not base64url: invalid Base64 encoding"
  | noValue => "cursor does not hold a value"
  | nullValue => "cursor value is null"

/-- A failed operation. -/
inductive Error where
  /-- The entity has another number of keys than the operation needs. -/
  | schema (operation entity expected : String) (keys explicitKeys : Nat)
  /-- The predicate has a node that cannot be turned into SQL. -/
  | unsupportedPredicate (node : String)
  | invalidOperation (fault : OperationFault)
  | argument (fault : ArgumentFault)
  /-- A column does not fit the declared type of a property; the datum is absent with the column. -/
  | mapping (property declared : String) (datum : Option Datum) (fault : FetchFault)
  | unknownProperty (entity property : String)
  | invalidCursor (fault : CursorFault)
  /-- The connection failed. -/
  | database (message : String)

/-- The name of the kind of an error. -/
def Error.kind : Error → String
  | schema .. => "Schema"
  | unsupportedPredicate _ => "UnsupportedPredicate"
  | invalidOperation _ => "InvalidOperation"
  | argument _ => "Argument"
  | mapping .. => "Mapping"
  | unknownProperty .. => "UnknownProperty"
  | invalidCursor _ => "InvalidCursor"
  | database _ => "Database"

/-- The wording of an error. -/
def Error.message : Error → String
  | schema operation entity expected keys explicitKeys =>
    operation ++ " on " ++ entity ++ " requires " ++ expected ++ "; found " ++ toString keys ++
      " [Key] and " ++ toString explicitKeys ++ " [ExplicitKey] properties"
  | unsupportedPredicate node => "unsupported predicate node: " ++ node
  | invalidOperation fault => "invalid operation: " ++ fault.message
  | argument fault => "invalid argument: " ++ fault.message
  | mapping property declared datum _ =>
    let (shown, kind) := match datum with
      | some d => (d.describe, d.typeName)
      | none => ("<missing>", "none")
    "error parsing column '" ++ property ++ "' (" ++ property ++ " = " ++ shown ++ " of type " ++
      kind ++ ", declared as " ++ declared ++ ")"
  | unknownProperty entity property =>
    entity ++ " has no property named '" ++ property ++ "'"
  | invalidCursor fault => "invalid cursor: " ++ fault.message
  | database message => message

end RowMapper

import RowMapper.Datum
import RowMapper.Text.LetterCase

/-!
# Rows and statements

* `Row` — one row of a result, an ordered list of named data;
* `Row.get?` — look-up by column name: a field of exactly the name comes first, then one whose name
  differs in the case of the letters A to Z only;
* `Statement` — SQL text with the data of its placeholders, as handed to a driver.
-/

namespace RowMapper

/-- One row of a result. -/
structure Row where
  /-- The driver's number for the row. -/
  index : String
  /-- Column names and data in the order of the result. -/
  fields : List (String × Datum)
  deriving DecidableEq, Repr

namespace Row

/-- The datum of a column. -/
def get? (row : Row) (name : String) : Option Datum :=
  match row.fields.find? fun field => field.1 == name with
  | some field => some field.2
  | none =>
    (row.fields.find? fun field => LetterCase.equalIgnoringAsciiCase field.1 name).map (·.2)

/-- The datum of the first column. -/
def first? (row : Row) : Option Datum := row.fields.head?.map (·.2)

end Row

/-- A statement for a driver. -/
structure Statement where
  sql : String
  /-- One datum for each placeholder, in the order of the text. -/
  params : List Datum
  /-- The time allowed for the statement, in milliseconds. -/
  timeout : Option Nat
  deriving DecidableEq, Repr

end RowMapper

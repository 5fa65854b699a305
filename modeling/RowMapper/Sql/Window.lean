import RowMapper.IntRange
import RowMapper.Sql.Token

/-!
# Windows

A `Window` is a run of consecutive rows of a result.  All its arithmetic saturates at the largest
64-bit number, and bounds are clamped to the largest signed one, which every database takes for
"no more rows".
-/

namespace RowMapper.Sql

/-- The sum, or the largest number if it is larger. -/
def saturatingAdd (a b : UInt64) : UInt64 :=
  UInt64.ofNat (IntRange.uint64.clamp (a.toNat + b.toNat)).toNat

/-- The product, or the largest number if it is larger. -/
def saturatingMul (a b : UInt64) : UInt64 :=
  UInt64.ofNat (IntRange.uint64.clamp (a.toNat * b.toNat)).toNat

/-- Rows to skip and rows to take. -/
structure Window where
  offset : UInt64
  size : UInt64
  deriving DecidableEq, Repr

namespace Window

/-- The window of a page, counted from one; page zero is the first. -/
def page (number size : UInt64) : Window :=
  ⟨saturatingMul (if number = 0 then 0 else number - 1) size, size⟩

/-- The number of rows up to the end of the window. -/
def stop (window : Window) : UInt64 := saturatingAdd window.offset window.size

/-- The value bound for a number of rows. -/
def rowCount (count : UInt64) : Value :=
  .bigInt (some (Int64.ofInt (IntRange.int64.clamp count.toNat)))

/-- The clause that restricts a SELECT to the window. -/
def clause (window : Window) : Paging → List Token
  | .limitOffset =>
    [.text " LIMIT ", .param (rowCount window.size),
      .text " OFFSET ", .param (rowCount window.offset)]
  | .offsetFetch =>
    [.text " OFFSET ", .param (rowCount window.offset),
      .text " ROWS FETCH NEXT ", .param (rowCount window.size), .text " ROWS ONLY"]
  | .rowsTo =>
    [.text " ROWS ", .param (rowCount (saturatingAdd window.offset 1)),
      .text " TO ", .param (rowCount window.stop)]
  | .rowNumber => []

end Window

end RowMapper.Sql

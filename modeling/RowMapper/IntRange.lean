/-!
# Ranges of integers

The integers that a type of fixed width can hold.
-/

namespace RowMapper

/-- All integers from one bound to another. -/
structure IntRange where
  least : Int
  most : Int
  deriving DecidableEq, Repr

namespace IntRange

/-- The integers of eight bits without a sign. -/
def uint8 : IntRange := ⟨0, 255⟩

/-- The integers of 32 bits with a sign. -/
def int32 : IntRange := ⟨-2147483648, 2147483647⟩

/-- The integers of 32 bits without a sign. -/
def uint32 : IntRange := ⟨0, 4294967295⟩

/-- The integers of 64 bits with a sign. -/
def int64 : IntRange := ⟨-9223372036854775808, 9223372036854775807⟩

/-- The integers of 64 bits without a sign. -/
def uint64 : IntRange := ⟨0, 18446744073709551615⟩

/-- Whether an integer is in the range. -/
def contains (range : IntRange) (n : Int) : Bool := range.least ≤ n && n ≤ range.most

/-- The integer of the range that is nearest to `n`. -/
def clamp (range : IntRange) (n : Int) : Int :=
  if n < range.least then range.least else if range.most < n then range.most else n

theorem contains_iff (range : IntRange) (n : Int) :
    range.contains n = true ↔ range.least ≤ n ∧ n ≤ range.most := by
  simp [contains]

end IntRange

end RowMapper

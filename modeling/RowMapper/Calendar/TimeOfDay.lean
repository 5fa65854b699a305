import RowMapper.Decimal.Numeral

/-!
# Times of day

A `TimeOfDay` has a precision of a nanosecond.  A leap second belongs to the second before it: it is
the second 59 with a billion nanoseconds or more, and is written as second 60.
-/

namespace RowMapper

namespace TimeOfDay

/-- The nanoseconds of a second. -/
def nanosPerSecond : Nat := 1000000000

/-- Whether the parts name a time.  Only second 59 has room for a leap second. -/
def isTime (hour minute second nano : Nat) : Bool :=
  hour < 24 && minute < 60 && second < 60 &&
    (nano < nanosPerSecond || (second == 59 && nano < 2 * nanosPerSecond))

end TimeOfDay

/-- A time of day. -/
structure TimeOfDay where
  hour : Nat
  minute : Nat
  second : Nat
  nano : Nat
  exists_time : TimeOfDay.isTime hour minute second nano = true
  deriving DecidableEq

namespace TimeOfDay

/-- The time with the given parts, if there is one. -/
def of? (hour minute second nano : Nat) : Option TimeOfDay :=
  if h : isTime hour minute second nano then some ⟨hour, minute, second, nano, h⟩ else none

theorem of?_self (t : TimeOfDay) : of? t.hour t.minute t.second t.nano = some t := by
  simp [of?, t.exists_time]

/-- The start of the day. -/
def midnight : TimeOfDay := ⟨0, 0, 0, 0, by decide⟩

instance : Inhabited TimeOfDay := ⟨midnight⟩

/-- The text of a fraction of a second: nothing for zero, else three, six or nine digits. -/
def writeFraction (nano : Nat) : List Char :=
  if nano = 0 then []
  else if nano % 1000000 = 0 then '.' :: Decimal.padded 3 (nano / 1000000)
  else if nano % 1000 = 0 then '.' :: Decimal.padded 6 (nano / 1000)
  else '.' :: Decimal.padded 9 nano

/-- The text of a time. -/
def write (t : TimeOfDay) : List Char :=
  let (second, nano) :=
    if t.nano < nanosPerSecond then (t.second, t.nano) else (t.second + 1, t.nano - nanosPerSecond)
  Decimal.padded 2 t.hour ++ ':' :: Decimal.padded 2 t.minute ++ ':' :: Decimal.padded 2 second ++
    writeFraction nano

end TimeOfDay

end RowMapper

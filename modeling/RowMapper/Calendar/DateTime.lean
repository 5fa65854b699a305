import RowMapper.Calendar.Date
import RowMapper.Calendar.TimeOfDay

/-!
# Dates with times

* `DateTime` — a date and a time without a time zone; also a point in time, read in UTC;
* `OffsetDateTime` — a date and a time at a known distance from UTC.
-/

namespace RowMapper

/-- A date and a time of day. -/
structure DateTime where
  date : Date
  time : TimeOfDay
  deriving DecidableEq, Inhabited

namespace DateTime

/-- Moves a date and time by a number of minutes smaller than a day.  Seconds stay, so a leap second
stays one. -/
def shift? (t : DateTime) (minutes : Int) : Option DateTime := do
  let total : Int := t.time.hour * 60 + t.time.minute + minutes
  let date ←
    if total < 0 then t.date.previous?
    else if total < 1440 then some t.date
    else t.date.next?
  let minuteOfDay := (total % 1440).toNat
  let time ← TimeOfDay.of? (minuteOfDay / 60) (minuteOfDay % 60) t.time.second t.time.nano
  return ⟨date, time⟩

/-- Date and time with a separator between them. -/
def writeWith (separator : Char) (t : DateTime) : List Char :=
  t.date.write ++ separator :: t.time.write

/-- The text of a date and time without a time zone. -/
def write (t : DateTime) : List Char := t.writeWith ' '

/-- The text of a point in time: date and time in UTC, and the distance zero. -/
def writeUtc (t : DateTime) : List Char := t.writeWith 'T' ++ "+00:00".toList

end DateTime

/-- A date and time at a distance from UTC, given in minutes. -/
structure OffsetDateTime where
  clock : DateTime
  offset : Int
  deriving DecidableEq, Inhabited

namespace OffsetDateTime

/-- The same point in time in UTC. -/
def toUtc? (t : OffsetDateTime) : Option DateTime := t.clock.shift? (-t.offset)

/-- The distance from UTC as hours and minutes. -/
def writeOffset (minutes : Int) : List Char :=
  (if minutes < 0 then '-' else '+') :: Decimal.padded 2 (minutes.natAbs / 60) ++
    ':' :: Decimal.padded 2 (minutes.natAbs % 60)

/-- The text of a date and time with its distance from UTC. -/
def write (t : OffsetDateTime) : List Char := t.clock.writeWith 'T' ++ writeOffset t.offset

end OffsetDateTime

end RowMapper

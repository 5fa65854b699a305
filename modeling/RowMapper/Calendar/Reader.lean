import RowMapper.Calendar.DateTime
import RowMapper.Text.CharClass.Blank

/-!
# Reading dates and times

Two notations are read.  In the *plain* one (`Date.read?`, `TimeOfDay.read?`, `DateTime.read?`)
blanks may stand before each number, numbers need no leading zeros, and a year with a sign may have
any number of digits.  In the *exchange* one (`OffsetDateTime.read?`) every number has its full
width, the date and the time are joined by a `T` or a space, and a distance from UTC follows.  In
both, a second 60 is a leap second, and of a fraction only nine digits count.
-/

namespace RowMapper

namespace Calendar

/-- Skips white space. -/
def skipBlank (s : List Char) : List Char := s.dropWhile CharClass.blank.contains

/-- A number of at least `least` and at most `most` digits; with no upper bound, all that follow. -/
def readNumber (least : Nat) (most : Option Nat) (s : List Char) : Option (Nat × List Char) :=
  let ds := s.takeWhile Char.isDigit
  let ds := match most with
    | some n => ds.take n
    | none => ds
  if ds.length < least ∨ ds = [] then none else some (Decimal.value ds, s.drop ds.length)

/-- A number of one or two digits, after white space. -/
def readShort (s : List Char) : Option (Nat × List Char) := readNumber 1 (some 2) (skipBlank s)

/-- A number of exactly two digits. -/
def readPair (s : List Char) : Option (Nat × List Char) := readNumber 2 (some 2) s

/-- A year, after white space: up to four digits, or a sign and digits. -/
def readYear (s : List Char) : Option (Int × List Char) :=
  match skipBlank s with
  | '-' :: rest => (readNumber 1 none rest).map fun (n, rest) => (-(n : Int), rest)
  | '+' :: rest => (readNumber 1 none rest).map fun (n, rest) => ((n : Int), rest)
  | rest => (readNumber 1 (some 4) rest).map fun (n, rest) => ((n : Int), rest)

/-- A given character. -/
def expect (c : Char) : List Char → Option (List Char)
  | x :: rest => if x = c then some rest else none
  | [] => none

/-- The nanoseconds of a fraction, if one follows.  Digits after the ninth are skipped. -/
def readFraction : List Char → Option (Nat × List Char)
  | '.' :: s =>
    match (s.takeWhile Char.isDigit).take 9 with
    | [] => none
    | ds => some (Decimal.value ds * Decimal.powerOfTen (9 - ds.length), s.dropWhile Char.isDigit)
  | s => some (0, s)

/-- The time with a second up to 60. -/
def time? (hour minute second nano : Nat) : Option TimeOfDay :=
  if second = 60 then TimeOfDay.of? hour minute 59 (TimeOfDay.nanosPerSecond + nano)
  else TimeOfDay.of? hour minute second nano

/-- Year, month and day with dashes between them. -/
def readDate (year : List Char → Option (Int × List Char))
    (number : List Char → Option (Nat × List Char)) (s : List Char) : Option (Date × List Char) := do
  let (y, s) ← year s
  let s ← expect '-' s
  let (m, s) ← number s
  let s ← expect '-' s
  let (d, s) ← number s
  let date ← Date.of? y m d
  return (date, s)

/-- Hour, minute and second with colons between them, and a fraction. -/
def readTime (number : List Char → Option (Nat × List Char)) (s : List Char) :
    Option (TimeOfDay × List Char) := do
  let (hour, s) ← number s
  let s ← expect ':' s
  let (minute, s) ← number s
  let s ← expect ':' s
  let (second, s) ← number s
  let (nano, s) ← readFraction s
  let time ← time? hour minute second nano
  return (time, s)

/-- The sign of a distance from UTC; the typographic minus sign counts as well. -/
def readSign : List Char → Option (Bool × List Char)
  | '+' :: rest => some (false, rest)
  | '-' :: rest => some (true, rest)
  | '\u2212' :: rest => some (true, rest)
  | _ => none

/-- A distance from UTC, in minutes. -/
def readOffset : List Char → Option (Int × List Char)
  | 'Z' :: rest => some (0, rest)
  | 'z' :: rest => some (0, rest)
  | s => do
    let (negative, s) ← readSign s
    let (hours, s) ← readPair s
    let s ← expect ':' s
    let (minutes, s) ← readPair s
    if hours < 24 ∧ minutes < 60 then
      let distance : Int := hours * 60 + minutes
      return (if negative then -distance else distance, s)
    else none

/-- The mark between a date and a time. -/
def readSeparator : List Char → Option (List Char)
  | 'T' :: rest => some rest
  | 't' :: rest => some rest
  | ' ' :: rest => some rest
  | _ => none

/-- A date and time with a distance from UTC, in which a year is read by the given rule. -/
def readOffsetDateTime (year : List Char → Option (Int × List Char)) (s : List Char) :
    Option OffsetDateTime := do
  let (date, s) ← readDate year readPair s
  let s ← readSeparator s
  let (time, s) ← readTime readPair s
  let (offset, s) ← readOffset s
  if s.isEmpty then some ⟨⟨date, time⟩, offset⟩ else none

/-- A year of four digits. -/
def readPlainYear (s : List Char) : Option (Int × List Char) :=
  (readNumber 4 (some 4) s).map fun (n, rest) => ((n : Int), rest)

end Calendar

/-- Reads a date. -/
def Date.read? (s : String) : Option Date :=
  match Calendar.readDate Calendar.readYear Calendar.readShort s.toList with
  | some (date, []) => some date
  | _ => none

/-- Reads a time of day. -/
def TimeOfDay.read? (s : String) : Option TimeOfDay :=
  match Calendar.readTime Calendar.readShort s.toList with
  | some (time, []) => some time
  | _ => none

/-- Reads a date and a time with white space, or nothing, between them. -/
def DateTime.read? (s : String) : Option DateTime :=
  match Calendar.readDate Calendar.readYear Calendar.readShort s.toList with
  | some (date, rest) =>
    match Calendar.readTime Calendar.readShort (Calendar.skipBlank rest) with
    | some (time, []) => some ⟨date, time⟩
    | _ => none
  | none => none

/-- Reads a date and time with a distance from UTC and a year of four digits. -/
def OffsetDateTime.read? (s : String) : Option OffsetDateTime :=
  Calendar.readOffsetDateTime Calendar.readPlainYear s.toList

/-- Reads a date and time with a distance from UTC, whose year may carry a sign. -/
def OffsetDateTime.readSigned? (s : String) : Option OffsetDateTime :=
  Calendar.readOffsetDateTime Calendar.readYear s.toList

end RowMapper

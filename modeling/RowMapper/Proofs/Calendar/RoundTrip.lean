import RowMapper.Entity.Fetch
import RowMapper.Proofs.Decimal.Numeral

/-!
# Dates and times there and back

What is written as a date, a time or both is read back as the same.

* `readNumber_append` — a numeral is read up to the first character that is no digit;
* `Date.read?_write`, `TimeOfDay.read?_write` — dates of every year, and times with fractions and
  leap seconds;
* `DateTime.readInstant?_write`, `DateTime.readInstant?_writeUtc` — the two notations of a date
  with a time, read by the one reader for both.

### Two notations, one reader

A point in time is looked for in the exchange notation first.  A date and time without a time zone
is not mistaken for one: the distance from UTC is missing, or the year already has a sign.  A point
in time whose year has a sign is in neither notation, as the plain one has no mark in front of the
time.
-/

namespace RowMapper

namespace Calendar

open Decimal (EndsDigits endsDigits_nil endsDigits_cons takeWhile_append_of_endsDigits)

/-! ### Numerals -/

variable {ds rest : List Char}

/-- A numeral is read up to the first character that is no digit. -/
theorem readNumber_append {least : Nat} {most : Option Nat} (hds : ∀ c ∈ ds, c.isDigit = true)
    (hne : ds ≠ []) (hleast : least ≤ ds.length) (hmost : ∀ n ∈ most, ds.length ≤ n)
    (hrest : EndsDigits rest) :
    readNumber least most (ds ++ rest) = some (Decimal.value ds, rest) := by
  have htaken := (takeWhile_append_of_endsDigits hds hrest).1
  have hread : ¬ (ds.length < least ∨ ds = []) := by simp [hne, hleast]
  unfold readNumber
  cases most with
  | none => simp only [htaken, if_neg hread, List.drop_left]
  | some n =>
      simp only [htaken, List.take_of_length_le (hmost n rfl), if_neg hread, List.drop_left]

theorem readNumber_padded {width n : Nat} (hwidth : 0 < width) (hn : n < 10 ^ width)
    {least : Nat} (hleast : least ≤ width) (hrest : EndsDigits rest) :
    readNumber least (some width) (Decimal.padded width n ++ rest) = some (n, rest) := by
  have hlength := Decimal.length_padded hwidth hn
  rw [readNumber_append (fun c hc => Decimal.isDigit_of_mem_padded hc)
    (Decimal.padded_ne_nil width n) (by omega) (fun m hm => ?_) hrest, Decimal.value_padded]
  obtain rfl := Option.some.inj hm
  exact hlength.le

/-- A digit is no white space. -/
theorem blank_contains_of_isDigit {c : Char} (hc : c.isDigit = true) :
    CharClass.blank.contains c = false := by
  have hrange : 48 ≤ c.toNat ∧ c.toNat ≤ 57 := Char.isDigit_iff_toNat.mp hc
  rw [Bool.eq_false_iff]
  intro hblank
  obtain ⟨r, hr, hbounds⟩ := CharClass.contains_eq_true_iff.mp hblank
  simp only [CharClass.blank, List.mem_cons, List.not_mem_nil, or_false] at hr
  rcases hr with rfl | rfl | rfl | rfl | rfl | rfl | rfl | rfl | rfl | rfl <;> omega

/-- A numeral does not start with white space. -/
theorem skipBlank_append (hds : ∀ c ∈ ds, c.isDigit = true) (hne : ds ≠ []) :
    skipBlank (ds ++ rest) = ds ++ rest := by
  obtain ⟨c, tail, rfl⟩ := List.exists_cons_of_ne_nil hne
  have hc := blank_contains_of_isDigit (hds c List.mem_cons_self)
  exact List.dropWhile_cons_of_neg (by simp [hc])

/-- A two-digit numeral, in either notation. -/
def ReadsPair (number : List Char → Option (Nat × List Char)) : Prop :=
  ∀ n < 100, ∀ rest, EndsDigits rest → number (Decimal.padded 2 n ++ rest) = some (n, rest)

theorem readsPair_readPair : ReadsPair readPair := by
  intro n hn rest hrest
  exact readNumber_padded (by decide) hn (by decide) hrest

theorem readsPair_readShort : ReadsPair readShort := by
  intro n hn rest hrest
  rw [readShort, skipBlank_append (fun c hc => Decimal.isDigit_of_mem_padded hc)
    (Decimal.padded_ne_nil 2 n)]
  exact readNumber_padded (by decide) hn (by decide) hrest

/-! ### Years -/

/-- A year without a sign has four digits. -/
theorem writeYear_of_plain {year : Int} (h : 0 ≤ year ∧ year ≤ 9999) :
    Date.writeYear year = Decimal.padded 4 year.natAbs := if_pos h

theorem readPlainYear_writeYear {year : Int} (h : 0 ≤ year ∧ year ≤ 9999) (hrest : EndsDigits rest) :
    readPlainYear (Date.writeYear year ++ rest) = some (year, rest) := by
  have hsmall : year.natAbs < 10 ^ 4 := by omega
  rw [readPlainYear, writeYear_of_plain h,
    readNumber_padded (by decide) hsmall (by decide) hrest, Option.map_some]
  exact congrArg (fun y => some (y, rest)) (Int.natAbs_of_nonneg h.1)

/-- A year with a sign is none of four digits. -/
theorem readPlainYear_of_signed {year : Int} (h : ¬ (0 ≤ year ∧ year ≤ 9999)) :
    readPlainYear (Date.writeYear year ++ rest) = none := by
  rw [Date.writeYear, if_neg h]
  split <;> rfl

/-- What starts with a digit has no sign. -/
theorem readYear_append (hds : ∀ c ∈ ds, c.isDigit = true) (hne : ds ≠ []) :
    readYear (ds ++ rest) = (readNumber 1 (some 4) (ds ++ rest)).map fun (n, rest) =>
      ((n : Int), rest) := by
  obtain ⟨c, tail, rfl⟩ := List.exists_cons_of_ne_nil hne
  have hc := hds c List.mem_cons_self
  rw [readYear, skipBlank_append hds hne, List.cons_append]
  split
  · next heq =>
      obtain ⟨rfl, -⟩ := List.cons.inj heq
      cases hc
  · next heq =>
      obtain ⟨rfl, -⟩ := List.cons.inj heq
      cases hc
  · rfl

/-- Every year is read in the plain notation. -/
theorem readYear_writeYear (year : Int) (hrest : EndsDigits rest) :
    readYear (Date.writeYear year ++ rest) = some (year, rest) := by
  have hdigits : ∀ c ∈ Decimal.padded 4 year.natAbs, c.isDigit = true :=
    fun c hc => Decimal.isDigit_of_mem_padded hc
  have hne := Decimal.padded_ne_nil 4 year.natAbs
  by_cases h : 0 ≤ year ∧ year ≤ 9999
  · have hsmall : year.natAbs < 10 ^ 4 := by omega
    rw [writeYear_of_plain h, readYear_append hdigits hne,
      readNumber_padded (by decide) hsmall (by decide) hrest, Option.map_some]
    exact congrArg (fun y => some (y, rest)) (Int.natAbs_of_nonneg h.1)
  · -- behind a sign there may be any number of digits
    have hread : readNumber 1 none (Decimal.padded 4 year.natAbs ++ rest) =
        some (year.natAbs, rest) := by
      rw [readNumber_append hdigits hne (List.length_pos_iff.mpr hne) (fun n hn => by cases hn)
        hrest, Decimal.value_padded]
    rw [Date.writeYear, if_neg h]
    by_cases hnegative : year < 0
    · have hcast : -(year.natAbs : Int) = year := by omega
      rw [if_pos hnegative]
      show (readNumber 1 none (Decimal.padded 4 year.natAbs ++ rest)).map _ = _
      rw [hread, Option.map_some]
      exact congrArg (fun y => some (y, rest)) hcast
    · have hcast : (year.natAbs : Int) = year := by omega
      rw [if_neg hnegative]
      show (readNumber 1 none (Decimal.padded 4 year.natAbs ++ rest)).map _ = _
      rw [hread, Option.map_some]
      exact congrArg (fun y => some (y, rest)) hcast

/-! ### Dates -/

/-- The month and the day of a date have two digits. -/
theorem month_day_lt (d : Date) : d.month < 100 ∧ d.day < 100 := by
  have hday := d.exists_day
  simp only [Date.isDay, Bool.and_eq_true, decide_eq_true_eq] at hday
  have hmonth : Date.daysInMonth d.year d.month ≤ 31 := by
    unfold Date.daysInMonth
    split
    · split <;> decide
    · split <;> decide
  omega

/-- A date is read back by every pair of readers that read its year and two-digit numbers. -/
theorem readDate_write {year : List Char → Option (Int × List Char)}
    {number : List Char → Option (Nat × List Char)} (d : Date)
    (hyear : ∀ rest, EndsDigits rest → year (Date.writeYear d.year ++ rest) = some (d.year, rest))
    (hnumber : ReadsPair number) (hrest : EndsDigits rest) :
    readDate year number (d.write ++ rest) = some (d, rest) := by
  have hdash (s : List Char) : EndsDigits ('-' :: s) := endsDigits_cons rfl s
  obtain ⟨hmonth, hday⟩ := month_day_lt d
  have hwrite : d.write ++ rest = Date.writeYear d.year ++ '-' :: (Decimal.padded 2 d.month ++
      '-' :: (Decimal.padded 2 d.day ++ rest)) := by
    simp [Date.write]
  rw [hwrite, readDate]
  simp only [hyear _ (hdash _), hnumber _ hmonth _ (hdash _), hnumber _ hday _ hrest, expect,
    Option.bind_eq_bind, Option.bind_some, if_true, Date.of?_self, Option.pure_def]

/-! ### Times -/

/-- Three, six or nine digits of a fraction are read with the zeros that are left out. -/
theorem readFraction_padded {width n : Nat} (hwidth : 0 < width) (hnine : width ≤ 9)
    (hn : n < 10 ^ width) (hrest : EndsDigits rest) :
    readFraction ('.' :: (Decimal.padded width n ++ rest)) =
      some (n * 10 ^ (9 - width), rest) := by
  have hlength := Decimal.length_padded hwidth hn
  have hdigits : ∀ c ∈ Decimal.padded width n, c.isDigit = true :=
    fun c hc => Decimal.isDigit_of_mem_padded hc
  have hrun := takeWhile_append_of_endsDigits hdigits hrest
  have hne := Decimal.padded_ne_nil width n
  have hvalue := Decimal.value_padded width n
  rw [readFraction, hrun.1, hrun.2, List.take_of_length_le (by omega)]
  split
  · next heq => exact absurd heq hne
  · rw [hvalue, hlength]
    rfl

/-- A fraction of a second is read back. -/
theorem readFraction_writeFraction {nano : Nat} (hnano : nano < TimeOfDay.nanosPerSecond)
    (hrest : EndsDigits rest) (hdot : rest.head? ≠ some '.') :
    readFraction (TimeOfDay.writeFraction nano ++ rest) = some (nano, rest) := by
  rw [TimeOfDay.nanosPerSecond] at hnano
  unfold TimeOfDay.writeFraction
  split
  · next hzero =>
      subst hzero
      cases rest with
      | nil => rfl
      | cons c tail =>
          unfold readFraction
          split
          · next heq =>
              obtain ⟨rfl, -⟩ := List.cons.inj heq
              exact absurd rfl hdot
          · rfl
  · split
    · next hmillis =>
        rw [List.cons_append, readFraction_padded (by decide) (by decide) (by omega) hrest]
        exact congrArg (fun n => some (n, rest)) (by omega)
    · split
      · next hmicros =>
          rw [List.cons_append, readFraction_padded (by decide) (by decide) (by omega) hrest]
          exact congrArg (fun n => some (n, rest)) (by omega)
      · rw [List.cons_append, readFraction_padded (by decide) (by decide) (by omega) hrest]
        exact congrArg (fun n => some (n, rest)) (by omega)

/-- The second and the fraction that a time is written with. -/
theorem time?_written (t : TimeOfDay) :
    ∃ second nano, second < 100 ∧ nano < TimeOfDay.nanosPerSecond ∧
      time? t.hour t.minute second nano = some t ∧
      t.write = Decimal.padded 2 t.hour ++ ':' :: Decimal.padded 2 t.minute ++
        ':' :: Decimal.padded 2 second ++ TimeOfDay.writeFraction nano := by
  have htime := t.exists_time
  simp only [TimeOfDay.isTime, Bool.and_eq_true, Bool.or_eq_true, decide_eq_true_eq,
    beq_iff_eq] at htime
  by_cases hleap : t.nano < TimeOfDay.nanosPerSecond
  · refine ⟨t.second, t.nano, by omega, hleap, ?_, ?_⟩
    · rw [time?, if_neg (by omega), TimeOfDay.of?_self]
    · rw [TimeOfDay.write, if_pos hleap]
  · -- a leap second is written as the second after the one it belongs to
    have hsecond : t.second = 59 := by omega
    have hnano : TimeOfDay.nanosPerSecond + (t.nano - TimeOfDay.nanosPerSecond) = t.nano := by
      omega
    refine ⟨t.second + 1, t.nano - TimeOfDay.nanosPerSecond, by omega, by omega, ?_, ?_⟩
    · rw [time?, if_pos (by omega), hnano, ← hsecond, TimeOfDay.of?_self]
    · rw [TimeOfDay.write, if_neg hleap]

/-- A time is read back by every reader of two-digit numbers. -/
theorem readTime_write {number : List Char → Option (Nat × List Char)} (t : TimeOfDay)
    (hnumber : ReadsPair number) (hrest : EndsDigits rest) (hdot : rest.head? ≠ some '.') :
    readTime number (t.write ++ rest) = some (t, rest) := by
  obtain ⟨second, nano, hsecond, hnano, htime, hwrite⟩ := time?_written t
  have hcolon (s : List Char) : EndsDigits (':' :: s) := endsDigits_cons rfl s
  have hhour : t.hour < 100 ∧ t.minute < 100 := by
    have h := t.exists_time
    simp only [TimeOfDay.isTime, Bool.and_eq_true, decide_eq_true_eq] at h
    omega
  have hfraction : EndsDigits (TimeOfDay.writeFraction nano ++ rest) := by
    unfold TimeOfDay.writeFraction
    split
    · exact hrest
    · split
      · exact endsDigits_cons rfl _
      · split <;> exact endsDigits_cons rfl _
  have htext : t.write ++ rest = Decimal.padded 2 t.hour ++ ':' :: (Decimal.padded 2 t.minute ++
      ':' :: (Decimal.padded 2 second ++ (TimeOfDay.writeFraction nano ++ rest))) := by
    simp [hwrite]
  rw [htext, readTime]
  simp only [hnumber _ hhour.1 _ (hcolon _), hnumber _ hhour.2 _ (hcolon _),
    hnumber _ hsecond _ hfraction, readFraction_writeFraction hnano hrest hdot, expect,
    Option.bind_eq_bind, Option.bind_some, if_true, htime, Option.pure_def]

end Calendar

/-! ### What is written is read back -/

open Calendar
open Decimal (endsDigits_nil endsDigits_cons)

/-- **A date is read back**, whatever its year is. -/
theorem Date.read?_write (d : Date) : Date.read? (String.ofList d.write) = some d := by
  have h := readDate_write d (fun rest => readYear_writeYear d.year) readsPair_readShort
    endsDigits_nil
  rw [List.append_nil] at h
  rw [Date.read?, String.toList_ofList, h]

/-- **A time of day is read back**, also within a leap second. -/
theorem TimeOfDay.read?_write (t : TimeOfDay) :
    TimeOfDay.read? (String.ofList t.write) = some t := by
  have h := readTime_write t readsPair_readShort endsDigits_nil (by simp)
  rw [List.append_nil] at h
  rw [TimeOfDay.read?, String.toList_ofList, h]

namespace DateTime

/-- Blanks before a time are skipped, and nothing of the time is. -/
theorem skipBlank_write (t : TimeOfDay) : skipBlank (' ' :: t.write) = t.write := by
  obtain ⟨second, nano, -, -, -, hwrite⟩ := time?_written t
  have htext : t.write = Decimal.padded 2 t.hour ++ (':' :: Decimal.padded 2 t.minute ++
      ':' :: Decimal.padded 2 second ++ TimeOfDay.writeFraction nano) := by
    simp [hwrite]
  have hblank : skipBlank (' ' :: t.write) = skipBlank t.write :=
    List.dropWhile_cons_of_pos (by decide)
  rw [hblank, htext]
  exact skipBlank_append (fun c hc => Decimal.isDigit_of_mem_padded hc)
    (Decimal.padded_ne_nil 2 t.hour)

/-- A date and time without a time zone is read back in the plain notation. -/
theorem read?_write (t : DateTime) : DateTime.read? (String.ofList t.write) = some t := by
  have hdate := readDate_write t.date (fun rest => readYear_writeYear t.date.year)
    readsPair_readShort (endsDigits_cons (c := ' ') rfl t.time.write)
  have htime := readTime_write t.time readsPair_readShort endsDigits_nil (by simp)
  rw [List.append_nil] at htime
  rw [DateTime.read?, String.toList_ofList, DateTime.write, writeWith, hdate]
  simp only [skipBlank_write, htime]

/-- What starts with a date whose year has a sign is nothing in the exchange notation. -/
theorem readOffsetDateTime_of_signed {d : Date} (hyear : ¬ (0 ≤ d.year ∧ d.year ≤ 9999))
    (rest : List Char) : readOffsetDateTime readPlainYear (d.write ++ rest) = none := by
  rw [readOffsetDateTime, readDate, Date.write, List.append_assoc, List.append_assoc,
    readPlainYear_of_signed hyear]
  rfl

/-- A date and time without a time zone is none with a distance from UTC. -/
theorem offset_read?_write (t : DateTime) :
    OffsetDateTime.read? (String.ofList t.write) = none := by
  rw [OffsetDateTime.read?, String.toList_ofList, DateTime.write, writeWith]
  by_cases hyear : 0 ≤ t.date.year ∧ t.date.year ≤ 9999
  · have hdate := readDate_write t.date (fun rest => readPlainYear_writeYear hyear)
      readsPair_readPair (endsDigits_cons (c := ' ') rfl t.time.write)
    have htime := readTime_write t.time readsPair_readPair endsDigits_nil (by simp)
    rw [List.append_nil] at htime
    -- all is there but the distance
    rw [readOffsetDateTime, hdate]
    simp only [Option.bind_eq_bind, Option.bind_some, readSeparator, htime]
    rfl
  · exact readOffsetDateTime_of_signed hyear _

/-- A point in time is read back in the exchange notation if its year has four digits. -/
theorem offset_read?_writeUtc {t : DateTime} (hyear : 0 ≤ t.date.year ∧ t.date.year ≤ 9999) :
    OffsetDateTime.read? (String.ofList t.writeUtc) = some ⟨t, 0⟩ := by
  have hdate := readDate_write t.date (fun rest => readPlainYear_writeYear hyear)
    readsPair_readPair (endsDigits_cons (c := 'T') rfl (t.time.write ++ "+00:00".toList))
  have htime := readTime_write t.time readsPair_readPair
    (endsDigits_cons (c := '+') rfl "00:00".toList) (by simp)
  have htext : t.writeUtc = t.date.write ++ 'T' :: (t.time.write ++ "+00:00".toList) := by
    simp [writeUtc, writeWith]
  rw [OffsetDateTime.read?, String.toList_ofList, htext, readOffsetDateTime, hdate]
  simp only [Option.bind_eq_bind, Option.bind_some, readSeparator]
  rw [show "+00:00".toList = '+' :: "00:00".toList from rfl, htime]
  rfl

/-- A point in time is nothing in the plain notation: the mark in front of the time is no blank. -/
theorem read?_writeUtc (t : DateTime) : DateTime.read? (String.ofList t.writeUtc) = none := by
  have hdate := readDate_write t.date (fun rest => readYear_writeYear t.date.year)
    readsPair_readShort (endsDigits_cons (c := 'T') rfl (t.time.write ++ "+00:00".toList))
  have htext : t.writeUtc = t.date.write ++ 'T' :: (t.time.write ++ "+00:00".toList) := by
    simp [writeUtc, writeWith]
  rw [DateTime.read?, String.toList_ofList, htext, hdate]
  rfl

/-- A distance of zero from UTC changes nothing. -/
theorem toUtc?_zero (t : DateTime) : OffsetDateTime.toUtc? ⟨t, 0⟩ = some t := by
  have htime := t.time.exists_time
  simp only [TimeOfDay.isTime, Bool.and_eq_true, decide_eq_true_eq] at htime
  have htotal : ((t.time.hour * 60 + t.time.minute + -0 : Int) % 1440).toNat =
      t.time.hour * 60 + t.time.minute := by omega
  have hhour : (t.time.hour * 60 + t.time.minute) / 60 = t.time.hour := by omega
  have hminute : (t.time.hour * 60 + t.time.minute) % 60 = t.time.minute := by omega
  rw [OffsetDateTime.toUtc?, shift?]
  simp only [htotal, hhour, hminute, TimeOfDay.of?_self]
  rw [if_neg (by omega), if_pos (by omega)]
  rfl

end DateTime

open Datum in
/-- **A date and time without a time zone is read back**, whatever its year is. -/
theorem DateTime.readInstant?_write (t : DateTime) :
    readInstant? (String.ofList t.write) = some t := by
  rw [readInstant?, t.offset_read?_write]
  exact t.read?_write

open Datum in
/-- **A point in time is read back if its year has four digits**, and not at all otherwise: with the
sign of its year it is in neither notation. -/
theorem DateTime.readInstant?_writeUtc (t : DateTime) :
    readInstant? (String.ofList t.writeUtc) =
      if 0 ≤ t.date.year ∧ t.date.year ≤ 9999 then some t else none := by
  rw [readInstant?]
  by_cases hyear : 0 ≤ t.date.year ∧ t.date.year ≤ 9999
  · rw [offset_read?_writeUtc hyear, Option.bind_some, t.toUtc?_zero, if_pos hyear]
  · have hoffset : OffsetDateTime.read? (String.ofList t.writeUtc) = none := by
      rw [OffsetDateTime.read?, String.toList_ofList, writeUtc, writeWith, List.append_assoc]
      exact readOffsetDateTime_of_signed hyear _
    rw [hoffset, if_neg hyear]
    exact t.read?_writeUtc

end RowMapper

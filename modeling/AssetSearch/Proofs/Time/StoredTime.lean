/-
This file shows when a stored time can be read back, and what is read. The reader wants years of
four digits, while the writer puts a sign before all other years.
-/

import AssetSearch.Proofs.Time.Scan

namespace AssetSearch.Time

/-- A day of this kind exists, and its year is written with four digits. -/
structure Date.IsOrdinary (date : Date) : Prop where
  valid : date.isValid = true
  notNegative : 0 ≤ date.year
  fourDigits : date.year ≤ 9999

namespace Instant

/-- The day exists, the second lies in it, and only a leap second has more nanoseconds than others
have. -/
structure IsValid (instant : Instant) : Prop where
  date : instant.date.isValid = true
  second : instant.secondOfDay < 86400
  nanosecond : instant.nanosecond < 2000000000

/-- The year is written with four digits and without a sign. -/
def HasPlainYear (instant : Instant) : Prop :=
  0 ≤ instant.date.year ∧ instant.date.year ≤ 9999

instance (instant : Instant) : Decidable instant.HasPlainYear := inferInstanceAs (Decidable (_ ∧ _))

/-- A leap second follows the last second of its minute. -/
def LeapEndsMinute (instant : Instant) : Prop :=
  1000000000 ≤ instant.nanosecond → instant.secondOfDay % 60 = 59

instance (instant : Instant) : Decidable instant.LeapEndsMinute :=
  inferInstanceAs (Decidable (_ → _))

/-- The second number sixty exists only at the end of a minute, so that any other leap second is
written like the second after it. -/
def asWritten (instant : Instant) : Instant :=
  if 1000000000 ≤ instant.nanosecond ∧ instant.secondOfDay % 60 ≠ 59 then
    ⟨instant.date, instant.secondOfDay + 1, instant.nanosecond - 1000000000⟩
  else instant

/-- Nanoseconds are counted from the epoch. Those of a leap second are counted on behind the second
before it. -/
def nanoseconds (instant : Instant) : Int :=
  (instant.date.dayNumber * 86400 + instant.secondOfDay) * 1000000000 + instant.nanosecond

theorem IsValid.second_asWritten {instant : Instant} (valid : instant.IsValid) :
    instant.asWritten.secondOfDay < 86400 := by
  have day := valid.second
  rw [asWritten]
  split
  · simp only
    omega
  · exact day

theorem asWritten_eq_self {instant : Instant} (ends : instant.LeapEndsMinute) :
    instant.asWritten = instant := by
  rw [asWritten, if_neg]
  intro given
  exact given.2 (ends given.1)

theorem asWritten_date (instant : Instant) : instant.asWritten.date = instant.date := by
  rw [asWritten]
  split
  · rfl
  · rfl

theorem HasPlainYear.asWritten {instant : Instant} (plain : instant.HasPlainYear) :
    instant.asWritten.HasPlainYear := by
  rw [HasPlainYear, asWritten_date]
  exact plain

theorem IsValid.asWritten {instant : Instant} (valid : instant.IsValid) :
    instant.asWritten.IsValid where
  date := by
    rw [asWritten_date]
    exact valid.date
  second := valid.second_asWritten
  nanosecond := by
    have short := valid.nanosecond
    rw [Instant.asWritten]
    split
    · simp only
      omega
    · exact short

theorem IsValid.leapEndsMinute_asWritten {instant : Instant} (valid : instant.IsValid) :
    instant.asWritten.LeapEndsMinute := by
  have short := valid.nanosecond
  intro leap
  rw [Instant.asWritten] at leap ⊢
  split at leap
  · simp only at leap
    omega
  · next notInside =>
      rw [if_neg notInside]
      exact Classical.byContradiction fun notLast => notInside ⟨leap, notLast⟩

/-- Without an offset the local time is the time itself. -/
theorem ofLocal?_zero {instant : Instant} (day : instant.secondOfDay < 86400) :
    instant.ofLocal? 0 = some instant := by
  have notBefore : ¬ (instant.secondOfDay : Int) < 0 := by omega
  have notAfter : ¬ 86400 ≤ (instant.secondOfDay : Int) := by omega
  simp only [ofLocal?, Int.sub_zero, notBefore, notAfter, if_false, Int.toNat_natCast]

end Instant

theorem daysInMonth_le (year : Int) (month : Nat) : daysInMonth year month ≤ 31 := by
  rw [daysInMonth.eq_def]
  split
  · split <;> omega
  all_goals omega

namespace Date

theorem isValid_iff {date : Date} :
    date.isValid = true ↔ firstYear ≤ date.year ∧ date.year ≤ lastYear ∧ 1 ≤ date.month ∧
      date.month ≤ 12 ∧ 1 ≤ date.day ∧ date.day ≤ daysInMonth date.year date.month := by
  simp only [isValid, Bool.and_eq_true, decide_eq_true_eq, and_assoc]

/-- The parts of a day that exists are in the ranges that the reader asks for. -/
theorem isValid_ranges {date : Date} (valid : date.isValid = true) :
    1 ≤ date.month ∧ date.month ≤ 12 ∧ 1 ≤ date.day ∧ date.day ≤ 31 := by
  have short := daysInMonth_le date.year date.month
  obtain ⟨_, _, firstMonth, lastMonth, firstDay, lastDay⟩ := isValid_iff.mp valid
  exact ⟨firstMonth, lastMonth, firstDay, Nat.le_trans lastDay short⟩

end Date

namespace Rfc3339

/-- These are the fields that a point in time is written with. -/
def writtenFields (instant : Instant) : Fields :=
  if 1000000000 ≤ instant.nanosecond then
    ⟨instant.date, instant.secondOfDay / 3600, instant.secondOfDay / 60 % 60,
      instant.secondOfDay % 60 + 1, instant.nanosecond - 1000000000, 0⟩
  else
    ⟨instant.date, instant.secondOfDay / 3600, instant.secondOfDay / 60 % 60,
      instant.secondOfDay % 60, instant.nanosecond, 0⟩

/-- This is a day as it is written, with what follows it. -/
def dayText (date : Date) (later : List Char) : List Char :=
  (yearText date.year).toList ++ '-' ::
    ((padded 2 date.month).toList ++ '-' :: ((padded 2 date.day).toList ++ later))

def minuteText (hour minute : Nat) (later : List Char) : List Char :=
  (padded 2 hour).toList ++ ':' :: ((padded 2 minute).toList ++ later)

def secondText (hour minute second : Nat) (later : List Char) : List Char :=
  minuteText hour minute (':' :: ((padded 2 second).toList ++ later))

theorem write_toList (instant : Instant) (zone : String) :
    (write instant zone).toList =
      dayText instant.date ('T' :: secondText (writtenFields instant).hour
        (writtenFields instant).minute (writtenFields instant).second
        ((fractionText (writtenFields instant).nanosecond).toList ++ zone.toList)) := by
  by_cases leap : 1000000000 ≤ instant.nanosecond
  · simp [write, writtenFields, leap, dayText, secondText, minuteText]
  · simp [write, writtenFields, leap, dayText, secondText, minuteText]

theorem writtenFields_date (instant : Instant) : (writtenFields instant).date = instant.date := by
  rw [writtenFields]
  split
  · rfl
  · rfl

theorem writtenFields_offset (instant : Instant) : (writtenFields instant).offset = 0 := by
  rw [writtenFields]
  split
  · rfl
  · rfl

/-- The hour, the minute and the second of a day are in the ranges that the reader asks for. -/
theorem writtenFields_ranges {instant : Instant} (valid : instant.IsValid) :
    (writtenFields instant).hour ≤ 23 ∧ (writtenFields instant).minute ≤ 59 ∧
      (writtenFields instant).second ≤ 60 ∧ (writtenFields instant).nanosecond < 1000000000 := by
  have day := valid.second
  have short := valid.nanosecond
  rw [writtenFields]
  split
  · refine ⟨?_, ?_, ?_, ?_⟩ <;> simp only <;> omega
  · refine ⟨?_, ?_, ?_, ?_⟩ <;> simp only <;> omega

theorem dateTimeSeparator_T (rest : List Char) : dateTimeSeparator ('T' :: rest) = .ok rest := rfl

theorem offset_zero : Scan.offset (Scan.literal ':') "+00:00".toList = .ok (0, []) := rfl

theorem yearText_plain {year : Int} (notNegative : 0 ≤ year) (fourDigits : year ≤ 9999) :
    yearText year = padded 4 year.toNat := by
  rw [yearText, if_pos ⟨notNegative, fourDigits⟩]

/-- A year that is not plain begins with a sign. -/
theorem yearText_signed {year : Int} (signed : ¬ (0 ≤ year ∧ year ≤ 9999)) :
    ∃ sign, sign.isDigit = false ∧
      (yearText year).toList = sign :: (padded 4 year.natAbs).toList := by
  rw [yearText, if_neg signed, String.toList_append]
  by_cases negative : year < 0
  · rw [if_pos negative]
    exact ⟨'-', rfl, rfl⟩
  · rw [if_neg negative]
    exact ⟨'+', rfl, rfl⟩

theorem four_le_yearText (year : Int) : 4 ≤ (yearText year).toList.length := by
  by_cases plain : 0 ≤ year ∧ year ≤ 9999
  · rw [yearText_plain plain.1 plain.2]
    exact width_le_padded 4 year.toNat
  · obtain ⟨sign, -, written⟩ := yearText_signed plain
    have wide := width_le_padded 4 year.natAbs
    rw [written, List.length_cons]
    omega

section

variable {date : Date} {hour minute second : Nat}

/-- A day and a time of day are long enough, whatever follows them. -/
theorem shortestClock_le (date : Date) (hour minute second : Nat) (later : List Char) :
    Scan.hasBytes shortestClock (dayText date ('T' :: secondText hour minute second later)) =
      true := by
  have year := four_le_yearText date.year
  have twoWide := width_le_padded 2
  have month := twoWide date.month
  have day := twoWide date.day
  have hours := twoWide hour
  have minutes := twoWide minute
  have seconds := twoWide second
  have bytes := length_le_byteLength (dayText date ('T' :: secondText hour minute second later))
  rw [Scan.hasBytes, decide_eq_true_eq, shortestClock]
  simp only [dayText, secondText, minuteText, List.length_append, List.length_cons] at bytes ⊢
  omega

/-- After the second only the fraction and the offset are left. -/
theorem readStrictFields_secondText (ordinary : date.IsOrdinary) (hours : hour ≤ 23)
    (minutes : minute ≤ 59) (seconds : second ≤ 60) (later : List Char) :
    readStrictFields (dayText date ('T' :: secondText hour minute second later)) = (do
      let (nanosecond, rest) ← Scan.optionalFraction later
      let (offset, rest) ← Scan.offset (Scan.literal ':') rest
      Scan.inRange (-largestOffset) largestOffset offset
      return (⟨date, hour, minute, second, nanosecond, offset⟩, rest)) := by
  obtain ⟨valid, notNegative, fourDigits⟩ := ordinary
  obtain ⟨firstMonth, lastMonth, firstDay, lastDay⟩ := Date.isValid_ranges valid
  have long := shortestClock_le date hour minute second later
  have fourWide : date.year.toNat < 10 ^ 4 := by omega
  have twoWide {value : Nat} (small : value < 100) (rest : List Char) :
      Scan.number 2 (some 2) ((padded 2 value).toList ++ rest) = .ok (value, rest) :=
    Scan.number_padded (by decide) small rest
  have hourRange : Scan.inRange 0 23 (hour : Int) = .ok () :=
    Scan.inRange_ok (by omega) (by omega)
  have minuteRange : Scan.inRange 0 59 (minute : Int) = .ok () :=
    Scan.inRange_ok (by omega) (by omega)
  have secondRange : Scan.inRange 0 60 (second : Int) = .ok () :=
    Scan.inRange_ok (by omega) (by omega)
  rw [readStrictFields, long, dayText, secondText, minuteText,
    yearText_plain notNegative fourDigits, Scan.number_padded (by decide) fourWide]
  simp only [bind, Except.bind, Scan.check, if_true, Scan.literal_cons, dateTimeSeparator_T,
    twoWide (show date.month < 100 by omega), twoWide (show date.day < 100 by omega),
    Int.toNat_of_nonneg notNegative, valid,
    twoWide (show hour < 100 by omega), twoWide (show minute < 100 by omega),
    twoWide (show second < 100 by omega), hourRange, minuteRange, secondRange]

end

/-- Every part of the written form is read, and nothing is left. -/
theorem readStrictFields_storedText {instant : Instant} (valid : instant.IsValid)
    (plain : instant.HasPlainYear) :
    readStrictFields (storedText instant).toList = .ok (writtenFields instant, []) := by
  have ordinary : instant.date.IsOrdinary := ⟨valid.date, plain.1, plain.2⟩
  obtain ⟨hours, minutes, seconds, nanoseconds⟩ := writtenFields_ranges valid
  have fraction :
      Scan.optionalFraction
          ((fractionText (writtenFields instant).nanosecond).toList ++ "+00:00".toList) =
        .ok ((writtenFields instant).nanosecond, "+00:00".toList) :=
    Scan.optionalFraction_fractionText nanoseconds (by decide) (by decide)
  have offset : Scan.inRange (-largestOffset) largestOffset 0 = .ok () := rfl
  rw [storedText, write_toList, readStrictFields_secondText ordinary hours minutes seconds]
  simp only [bind, Except.bind, pure, Except.pure, fraction, offset_zero, offset]
  rw [writtenFields]
  split
  · rfl
  · rfl

/-- The written fields stand for the written point in time. -/
theorem writtenFields_ofClock {instant : Instant} (valid : instant.IsValid) :
    Instant.ofClock (writtenFields instant).date (writtenFields instant).hour
      (writtenFields instant).minute (writtenFields instant).second
      (writtenFields instant).nanosecond = instant.asWritten := by
  have day := valid.second
  have clock : instant.secondOfDay / 3600 * 3600 + instant.secondOfDay / 60 % 60 * 60 +
      instant.secondOfDay % 60 = instant.secondOfDay := by omega
  have notSixty : instant.secondOfDay % 60 ≠ 60 := by omega
  by_cases leap : 1000000000 ≤ instant.nanosecond
  · have whole : instant.nanosecond - 1000000000 + 1000000000 = instant.nanosecond := by omega
    by_cases last : instant.secondOfDay % 60 = 59
    · rw [last] at clock
      simp only [writtenFields, Instant.ofClock, Instant.asWritten, leap, last, if_true, whole,
        ne_eq, not_true_eq_false, and_false, if_false, clock]
    · have notLast : instant.secondOfDay % 60 + 1 ≠ 60 := by omega
      simp only [writtenFields, Instant.ofClock, Instant.asWritten, leap, last, if_true, notLast,
        ne_eq, not_false_eq_true, and_self, if_false, ← Nat.add_assoc, clock]
  · simp only [writtenFields, Instant.ofClock, Instant.asWritten, leap, false_and, if_false,
      notSixty, clock]

/-- Whichever reader finds the written fields, they are in UTC. -/
theorem writtenFields_instant {instant : Instant} (valid : instant.IsValid) :
    (writtenFields instant).instant = .ok instant.asWritten := by
  have utc : isOffset 0 = true := rfl
  rw [Fields.instant, writtenFields_ofClock valid, writtenFields_date, writtenFields_offset]
  simp only [valid.date, utc, Instant.ofLocal?_zero valid.second_asWritten, Bool.not_true,
    Bool.false_eq_true, if_false]

/-- A stored time with a plain year is read back. -/
theorem readStrict_storedText {instant : Instant} (valid : instant.IsValid)
    (plain : instant.HasPlainYear) : readStrict (storedText instant) = .ok instant.asWritten := by
  rw [readStrict, readStrictFields_storedText valid plain]
  exact writtenFields_instant valid

/-- A time and the time that it is read as are written in the same way. -/
theorem storedText_asWritten {instant : Instant} (valid : instant.IsValid) :
    storedText instant.asWritten = storedText instant := by
  have short := valid.nanosecond
  rw [Instant.asWritten]
  split
  · next inside =>
      obtain ⟨leap, notLast⟩ := inside
      have ordinary : ¬ 1000000000 ≤ instant.nanosecond - 1000000000 := by omega
      have second : (instant.secondOfDay + 1) % 60 = instant.secondOfDay % 60 + 1 := by omega
      have minute : (instant.secondOfDay + 1) / 60 % 60 = instant.secondOfDay / 60 % 60 := by omega
      have hour : (instant.secondOfDay + 1) / 3600 = instant.secondOfDay / 3600 := by omega
      simp only [storedText, write, leap, ordinary, second, minute, hour, if_true, if_false,
        Nat.add_zero]
  · rfl

/-- A year with a sign is not accepted. -/
theorem readStrict_storedText_signed {instant : Instant} (signed : ¬ instant.HasPlainYear) :
    readStrict (storedText instant) = .error .invalid := by
  obtain ⟨sign, notDigit, year⟩ := yearText_signed signed
  have wide := width_le_padded 4 instant.date.year.natAbs
  rw [readStrict, storedText, write_toList, readStrictFields, shortestClock_le, dayText, year,
    List.cons_append, Scan.number_notDigit notDigit]
  · rfl
  · rw [List.length_cons, List.length_append]
    omega

end Rfc3339

end AssetSearch.Time

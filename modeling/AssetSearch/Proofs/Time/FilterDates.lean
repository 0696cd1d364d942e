/-
This file shows which instants the dates of filters denote. A day, a time of day without an offset
and a full point in time are read by different readers, which agree with each other.
-/

import AssetSearch.Proofs.Time.DayNumbers
import AssetSearch.Time.FilterDate
import Mathlib.Data.Rat.Floor
import Mathlib.Tactic.FieldSimp
import Mathlib.Tactic.Ring

namespace AssetSearch.Time

open AssetSearch.Number
open AssetSearch.Text

theorem Date.next?_isSome {date : Date} (before : date.year < lastYear) :
    ∃ following, date.next? = some following := by
  refine ⟨_, if_pos ?_⟩
  split
  · exact Int.le_of_lt before
  · split
    · exact Int.le_of_lt before
    · exact before

theorem Date.previous?_isSome {date : Date} (after : firstYear < date.year) :
    ∃ preceding, date.previous? = some preceding := by
  refine ⟨_, if_pos ?_⟩
  split
  · exact Int.le_of_lt after
  · split
    · exact Int.le_of_lt after
    · exact Int.le_sub_one_of_lt after

/-- The parts of a day that is typed have four and two digits, and the day need not exist. -/
structure Date.IsTyped (date : Date) : Prop where
  notNegative : 0 ≤ date.year
  fourDigits : date.year ≤ 9999
  month : date.month ≤ 99
  day : date.day ≤ 99

theorem Date.IsOrdinary.isTyped {date : Date} (ordinary : date.IsOrdinary) : date.IsTyped := by
  obtain ⟨valid, notNegative, fourDigits⟩ := ordinary
  obtain ⟨_, lastMonth, _, lastDay⟩ := Date.isValid_ranges valid
  exact ⟨notNegative, fourDigits, by omega, by omega⟩

namespace Instant

/-- Away from the ends of the calendar every offset leads to a point in time, and moves it by as
many seconds. -/
theorem ofLocal?_milliseconds {instant : Instant} {offset : Int} (valid : instant.IsValid)
    (plain : instant.HasPlainYear) (behind : -86400 < offset) (ahead : offset < 86400) :
    ∃ utc, instant.ofLocal? offset = some utc ∧
      utc.milliseconds = instant.milliseconds - 1000 * offset := by
  have day := valid.second
  obtain ⟨notNegative, fourDigits⟩ := plain
  obtain ⟨preceding, previous⟩ := Date.previous?_isSome
    (show firstYear < instant.date.year from Int.lt_of_lt_of_le (by decide) notNegative)
  obtain ⟨following, next⟩ := Date.next?_isSome
    (show instant.date.year < lastYear from Int.lt_of_le_of_lt fourDigits (by decide))
  have before := Date.dayNumber_previous? valid.date previous
  have after := Date.dayNumber_next? valid.date next
  simp only [ofLocal?, previous, next, Option.map_some]
  split
  · refine ⟨_, rfl, ?_⟩
    simp only [milliseconds, before]
    omega
  · split
    · refine ⟨_, rfl, ?_⟩
      simp only [milliseconds, after]
      omega
    · refine ⟨_, rfl, ?_⟩
      simp only [milliseconds]
      omega

theorem ofClock_date (date : Date) (hour minute second nanosecond : Nat) :
    (ofClock date hour minute second nanosecond).date = date := by
  rw [ofClock]
  split
  · rfl
  · rfl

theorem milliseconds_ofClock (date : Date) (hour minute : Nat) {second : Nat}
    (ordinary : second ≠ 60) (nanosecond : Nat) :
    (ofClock date hour minute second nanosecond).milliseconds =
      (date.dayNumber * 86400 + (hour * 3600 + minute * 60 + second : Nat)) * 1000 +
        (nanosecond / 1000000 : Nat) := by
  rw [ofClock, if_neg ordinary, milliseconds]

end Instant

namespace Scan

/-- A number of two digits is read digit by digit. -/
theorem twoDigits_padded {value : Nat} (fits : value < 100) (rest : List Char) :
    ∃ tens ones, twoDigits ((Rfc3339.padded 2 value).toList ++ rest) = .ok (tens, ones, rest) ∧
      10 * tens + ones = value := by
  have spells := padded_spells (show 0 < 2 by decide) (show value < 10 ^ 2 from fits)
  obtain ⟨first, second, written⟩ := List.length_eq_two.mp spells.length
  have firstDigit := spells.digits first (written ▸ List.mem_cons_self)
  have secondDigit := spells.digits second (written ▸ List.mem_cons_of_mem _ List.mem_cons_self)
  have sum := spells.value
  rw [written] at sum ⊢
  have bytes : hasBytes 2 (first :: second :: rest) = true := by
    have long := length_le_byteLength (first :: second :: rest)
    rw [List.length_cons, List.length_cons] at long
    rw [hasBytes, decide_eq_true_eq]
    omega
  refine ⟨digitValue first, digitValue second, ?_, ?_⟩
  · change twoDigits (first :: second :: rest) = _
    simp only [twoDigits, bytes, firstDigit, secondDigit, Bool.and_true, Bool.not_true,
      Bool.false_eq_true, if_false, if_true]
  · rw [← sum, ofDigits, List.foldl_cons, List.foldl_cons, List.foldl_nil, Nat.mul_zero,
      Nat.zero_add]

theorem offsetMinutes_padded {value : Nat} (fits : value ≤ 59) (rest : List Char) :
    offsetMinutes ((Rfc3339.padded 2 value).toList ++ rest) = .ok (value, rest) := by
  obtain ⟨tens, ones, read, sum⟩ :=
    twoDigits_padded (show value < 100 by omega) rest
  have small : ¬ 5 < tens := by omega
  rw [offsetMinutes, read]
  simp only [bind, Except.bind, pure, Except.pure, small, if_false, sum]

/-- An offset with a sign does not begin with the letter Z. -/
theorem offset_signed (separator : List Char → Except TimeFault (List Char)) (negative : Bool)
    (rest : List Char) :
    offset separator ((if negative then '-' else '+') :: rest) =
      signedOffset separator ((if negative then '-' else '+') :: rest) := by
  cases negative with
  | false => rfl
  | true => rfl

theorem offsetSign_signed (negative : Bool) (rest : List Char) :
    offsetSign ((if negative then '-' else '+') :: rest) = .ok (negative, rest) := by
  cases negative with
  | false => rfl
  | true => rfl

end Scan

namespace FilterDate

open Rfc3339

/-- This is an offset as it may be typed: the letter Z, or hours and minutes after a sign. -/
inductive Zone where
  | utc
  | offset (negative : Bool) (hours minutes : Nat)
  deriving DecidableEq, Repr

namespace Zone

def text : Zone → List Char
  | utc => ['Z']
  | offset negative hours minutes => (if negative then '-' else '+') :: minuteText hours minutes []

/-- Local times are so many seconds ahead of UTC. -/
def seconds : Zone → Int
  | utc => 0
  | offset negative hours minutes =>
      (if negative then -1 else 1) * (hours * 3600 + minutes * 60 : Nat)

/-- An offset is shorter than a day. -/
def IsTyped : Zone → Prop
  | utc => True
  | offset _ hours minutes => hours ≤ 23 ∧ minutes ≤ 59

instance (zone : Zone) : Decidable zone.IsTyped :=
  match zone with
  | utc => inferInstanceAs (Decidable True)
  | offset _ _ _ => inferInstanceAs (Decidable (_ ∧ _))

theorem IsTyped.bounds {zone : Zone} (typed : zone.IsTyped) :
    -largestOffset ≤ zone.seconds ∧ zone.seconds ≤ largestOffset := by
  rw [largestOffset]
  cases zone with
  | utc => exact ⟨by decide, by decide⟩
  | offset negative hours minutes =>
      obtain ⟨fewHours, fewMinutes⟩ := typed
      rw [seconds]
      split <;> omega

/-- A fraction ends in front of an offset. -/
theorem text_stops (zone : Zone) :
    zone.text.takeWhile Char.isDigit = [] ∧ zone.text.head? ≠ some '.' := by
  cases zone with
  | utc => exact ⟨rfl, by decide⟩
  | offset negative hours minutes =>
      cases negative with
      | false => exact ⟨rfl, show some '+' ≠ some '.' by decide⟩
      | true => exact ⟨rfl, show some '-' ≠ some '.' by decide⟩

end Zone

/-- This is a time of day as it may be typed, with any number of places behind the second. -/
structure Clock where
  hour : Nat
  minute : Nat
  second : Nat
  places : Nat
  fraction : Nat
  deriving DecidableEq, Repr

namespace Clock

/-- There is no point without places behind it. -/
def fractionText (clock : Clock) (later : List Char) : List Char :=
  if clock.places = 0 then later
  else '.' :: ((padded clock.places clock.fraction).toList ++ later)

def text (clock : Clock) (later : List Char) : List Char :=
  secondText clock.hour clock.minute clock.second (clock.fractionText later)

/-- The seconds of the day are exact. -/
def seconds (clock : Clock) : ℚ :=
  clock.hour * 3600 + clock.minute * 60 + clock.second + clock.fraction / 10 ^ clock.places

structure IsTyped (clock : Clock) : Prop where
  hour : clock.hour ≤ 23
  minute : clock.minute ≤ 59
  second : clock.second ≤ 59
  places : clock.places ≤ 9
  fraction : clock.fraction < 10 ^ clock.places

end Clock

/-- It is read with any reader that passes over the colon. -/
theorem Zone.IsTyped.read {zone : Zone} (typed : zone.IsTyped)
    {separator : List Char → Except TimeFault (List Char)}
    (passes : ∀ minutes, separator (':' :: ((padded 2 minutes).toList ++ [])) =
      .ok ((padded 2 minutes).toList ++ [])) :
    Scan.offset separator zone.text = .ok (zone.seconds, []) := by
  cases zone with
  | utc => rfl
  | offset negative hours minutes =>
      obtain ⟨fewHours, fewMinutes⟩ := typed
      obtain ⟨tens, ones, hour, sum⟩ := Scan.twoDigits_padded (show hours < 100 by omega)
        (':' :: ((padded 2 minutes).toList ++ []))
      rw [Zone.text, Scan.offset_signed, Scan.signedOffset, Scan.offsetSign_signed, minuteText]
      simp only [bind, Except.bind, pure, Except.pure, hour, passes,
        Scan.offsetMinutes_padded fewMinutes []]
      rw [Zone.seconds, ← sum]
      cases negative with
      | false => simp
      | true => simp

namespace Clock

/-- These are the nanoseconds of the fraction. -/
def nanosecond (clock : Clock) : Nat :=
  clock.fraction * 10 ^ (9 - clock.places)

variable {clock : Clock}

/-- The fraction ends where no digit and no point follows. -/
theorem IsTyped.readFraction (typed : clock.IsTyped) {later : List Char}
    (stops : later.takeWhile Char.isDigit = []) (noPoint : later.head? ≠ some '.') :
    Scan.optionalFraction (clock.fractionText later) = .ok (clock.nanosecond, later) := by
  have fits := typed.fraction
  rw [fractionText, nanosecond]
  split
  · next none =>
      have zero : clock.fraction = 0 := by
        rw [none, Nat.pow_zero] at fits
        omega
      rw [Scan.optionalFraction_noPoint noPoint, zero, Nat.zero_mul]
  · next some =>
      have positive : 0 < clock.places := Nat.pos_of_ne_zero some
      exact Scan.optionalFraction_spelled (padded_spells positive fits) positive typed.places stops

theorem IsTyped.nanosecond_lt (typed : clock.IsTyped) : clock.nanosecond < 1000000000 :=
  Scan.optionalFraction_isOk (typed.readFraction (List.takeWhile_nil) (by simp))

/-- The exact time is a whole number of milliseconds and the rest of the nanoseconds. -/
theorem IsTyped.floor_eq (typed : clock.IsTyped) (days offset : Int) :
    ⌊(86400 * days + clock.seconds - offset) * 1000⌋ =
      (days * 86400 + (clock.hour * 3600 + clock.minute * 60 + clock.second : Nat)) * 1000 +
        (clock.nanosecond / 1000000 : Nat) - 1000 * offset := by
  have scale : (10 : ℚ) ^ (9 - clock.places) * 10 ^ clock.places = 10 ^ 9 := by
    rw [← pow_add, Nat.sub_add_cancel typed.places]
  have fraction : (clock.fraction : ℚ) / 10 ^ clock.places = clock.nanosecond / 10 ^ 9 := by
    rw [nanosecond, ← scale]
    push_cast
    field_simp
  have exact : (86400 * days + clock.seconds - offset) * 1000 =
      (((days * 86400 + (clock.hour * 3600 + clock.minute * 60 + clock.second : Nat)) * 1000 -
        1000 * offset : Int) : ℚ) + (clock.nanosecond : ℚ) / (1000000 : Nat) := by
    rw [seconds, fraction]
    push_cast
    ring
  rw [exact, Int.floor_intCast_add, Rat.floor_natCast_div_natCast]
  push_cast
  ring

end Clock

section

variable {date : Date} {hour minute : Nat}

/-- The parts of a day are read whatever follows them, and the numbers must be in range. -/
theorem readDate_dayText (typed : date.IsTyped) (later : List Char) :
    readDate (dayText date later) = (do
      Scan.inRange 1 12 date.month
      Scan.inRange 1 31 date.day
      return (date, later)) := by
  obtain ⟨notNegative, fourDigits, months, days⟩ := typed
  have fourWide : date.year.toNat < 10000 := by omega
  have natural : ((date.year.toNat : Nat) : Int) = date.year := Int.toNat_of_nonneg notNegative
  have year : Scan.inRange (-2147483648) 2147483647 date.year = .ok () :=
    Scan.inRange_ok (by omega) (by omega)
  rw [dayText, yearText_plain notNegative fourDigits, readDate, trimStart_padded (by decide),
    Scan.year_padded fourWide, natural]
  simp only [bind, Except.bind, year, Scan.literal_cons,
    Scan.shortNumber_padded (show date.month < 100 by omega),
    Scan.shortNumber_padded (show date.day < 100 by omega)]

/-- A day that exists is read whatever follows it. -/
theorem readDate_ordinary (ordinary : date.IsOrdinary) (later : List Char) :
    readDate (dayText date later) = .ok (date, later) := by
  obtain ⟨firstMonth, lastMonth, firstDay, lastDay⟩ := Date.isValid_ranges ordinary.valid
  have month : Scan.inRange 1 12 (date.month : Int) = .ok () :=
    Scan.inRange_ok (by omega) (by omega)
  have day : Scan.inRange 1 31 (date.day : Int) = .ok () := Scan.inRange_ok (by omega) (by omega)
  rw [readDate_dayText ordinary.isTyped, month, day]
  rfl

theorem readMinutes_minuteText (ordinary : date.IsOrdinary) (hours : hour ≤ 23)
    (minutes : minute ≤ 59) (later : List Char) :
    readMinutes (dayText date ('T' :: minuteText hour minute later)) =
      .ok ((date, hour, minute), later) := by
  have hourRange : Scan.inRange 0 23 (hour : Int) = .ok () :=
    Scan.inRange_ok (by omega) (by omega)
  have minuteRange : Scan.inRange 0 59 (minute : Int) = .ok () :=
    Scan.inRange_ok (by omega) (by omega)
  rw [readMinutes, readDate_ordinary ordinary, minuteText]
  simp only [bind, Except.bind, pure, Except.pure, Scan.literal_cons,
    Scan.shortNumber_padded (show hour < 100 by omega), hourRange,
    Scan.shortNumber_padded (show minute < 100 by omega), minuteRange]

/-- A day is written with ten bytes. -/
theorem byteLength_dayText (typed : date.IsTyped) (later : List Char) :
    byteLength (dayText date later) = 10 + byteLength later := by
  obtain ⟨notNegative, fourDigits, months, days⟩ := typed
  rw [dayText, yearText_plain notNegative fourDigits]
  simp only [byteLength_append, byteLength, byteLength_padded (show 0 < 4 by decide)
    (show date.year.toNat < 10 ^ 4 by omega), byteLength_padded (show 0 < 2 by decide)
    (show date.month < 10 ^ 2 by omega), byteLength_padded (show 0 < 2 by decide)
    (show date.day < 10 ^ 2 by omega)]
  have hyphen : '-'.utf8Size = 1 := rfl
  omega

/-- Without its seconds no time is long enough. -/
theorem readStrict_short {characters : List Char} (short : byteLength characters < shortestClock) :
    (readStrict (String.ofList characters)).toOption = none := by
  have notLong : Scan.hasBytes shortestClock characters = false := by
    rw [Scan.hasBytes, decide_eq_false_iff_not, Nat.not_le]
    exact short
  rw [readStrict, String.toList_ofList, readStrictFields, notLong]
  rfl

/-- A day alone is too short for a point in time. -/
theorem readStrict_dayText (typed : date.IsTyped) :
    (readStrict (String.ofList (dayText date []))).toOption = none := by
  apply readStrict_short
  rw [byteLength_dayText typed]
  decide

/-- A time of day without seconds is too short for a point in time. -/
theorem readStrict_minuteText (typed : date.IsTyped) (hours : hour ≤ 23) (minutes : minute ≤ 59) :
    (readStrict (String.ofList (dayText date ('T' :: minuteText hour minute [])))).toOption =
      none := by
  apply readStrict_short
  rw [byteLength_dayText typed, minuteText]
  simp only [byteLength_append, byteLength, byteLength_padded (show 0 < 2 by decide)
    (show hour < 10 ^ 2 by omega), byteLength_padded (show 0 < 2 by decide)
    (show minute < 10 ^ 2 by omega)]
  decide

/-- A day alone is too short for a time of day. -/
theorem readMinutes_dayText (typed : date.IsTyped) :
    ∃ fault, readMinutes (dayText date []) = .error fault := by
  rw [readMinutes, readDate_dayText typed]
  cases Scan.inRange 1 12 (date.month : Int) with
  | error fault => exact ⟨fault, rfl⟩
  | ok _ =>
      cases Scan.inRange 1 31 (date.day : Int) with
      | error fault => exact ⟨fault, rfl⟩
      | ok _ => exact ⟨.tooShort, rfl⟩

theorem instant?_dayText (typed : date.IsTyped) :
    instant? (dayText date []) = (readDay (dayText date [])).toOption := by
  obtain ⟨fault, tooShort⟩ := readMinutes_dayText typed
  rw [instant?, readStrict_dayText typed, readSecondsLocal, readMinutesLocal, tooShort]
  rfl

/-- A day that exists is read as its beginning, and no other day is read. -/
theorem milliseconds?_dayText (typed : date.IsTyped) :
    milliseconds? (dayText date []) =
      if date.isValid then some (86400000 * date.dayNumber) else none := by
  rw [milliseconds?, instant?_dayText typed, readDay]
  by_cases valid : date.isValid = true
  · have midnight : (Instant.ofClock date 0 0 0 0).milliseconds = 86400000 * date.dayNumber := by
      rw [Instant.milliseconds_ofClock date 0 0 (by decide)]
      omega
    rw [readDate_ordinary ⟨valid, typed.notNegative, typed.fourDigits⟩, if_pos valid, ← midnight]
    simp [bind, Except.bind, finish, Instant.ofClock, valid, Except.toOption]
  · rw [readDate_dayText typed, if_neg valid]
    rw [Bool.not_eq_true] at valid
    cases Scan.inRange 1 12 (date.month : Int) with
    | error fault => rfl
    | ok _ =>
        cases Scan.inRange 1 31 (date.day : Int) with
        | error fault => rfl
        | ok _ => simp [bind, Except.bind, pure, Except.pure, finish, Instant.ofClock, valid,
            Except.toOption]

/-- A time of day without seconds is too short for the readers before its own. -/
theorem milliseconds?_minuteText (ordinary : date.IsOrdinary) (hours : hour ≤ 23)
    (minutes : minute ≤ 59) :
    milliseconds? (dayText date ('T' :: minuteText hour minute [])) =
      some (Instant.ofClock date hour minute 0 0).milliseconds := by
  have minutesRead := readMinutes_minuteText ordinary hours minutes []
  rw [milliseconds?, instant?, readStrict_minuteText ordinary.isTyped hours minutes,
    readSecondsLocal, readMinutesLocal, minutesRead]
  simp [bind, Except.bind, Scan.literal, finish, Instant.ofClock, ordinary.valid, Except.toOption]

theorem Clock.IsTyped.readStrictFields {clock : Clock} (typed : clock.IsTyped)
    (ordinary : date.IsOrdinary) {later : List Char} (stops : later.takeWhile Char.isDigit = [])
    (noPoint : later.head? ≠ some '.') :
    readStrictFields (dayText date ('T' :: clock.text later)) = (do
      let (offset, rest) ← Scan.offset (Scan.literal ':') later
      Scan.inRange (-largestOffset) largestOffset offset
      return (⟨date, clock.hour, clock.minute, clock.second, clock.nanosecond, offset⟩, rest)) := by
  rw [text, readStrictFields_secondText ordinary typed.hour typed.minute
    (Nat.le_succ_of_le typed.second), typed.readFraction stops noPoint]
  rfl

/-- Without an offset the time of day is taken as UTC. -/
theorem milliseconds?_local {clock : Clock} (typed : clock.IsTyped) (ordinary : date.IsOrdinary) :
    milliseconds? (dayText date ('T' :: clock.text [])) =
      some (Instant.ofClock date clock.hour clock.minute clock.second
        clock.nanosecond).milliseconds := by
  have seconds := typed.second
  have notLeap : clock.second ≠ 60 := by omega
  have secondRange : Scan.inRange 0 60 (clock.second : Int) = .ok () :=
    Scan.inRange_ok (by omega) (by omega)
  have fraction : Scan.optionalFraction (clock.fractionText []) = .ok (clock.nanosecond, []) :=
    typed.readFraction rfl (by decide)
  -- The first reader comes as far as the offset, and the next one takes the time without it.
  have noOffset : (readStrict (String.ofList (dayText date ('T' :: clock.text [])))).toOption =
      none := by
    rw [readStrict, String.toList_ofList, typed.readStrictFields ordinary rfl (by decide)]
    rfl
  rw [milliseconds?, instant?, noOffset, readSecondsLocal, Clock.text, secondText,
    readMinutes_minuteText ordinary typed.hour typed.minute]
  simp [bind, Except.bind, Scan.literal_cons, Scan.shortNumber_padded
    (show clock.second < 100 by omega), secondRange, fraction, finish, Instant.ofClock,
    ordinary.valid, Except.toOption, notLeap]

/-- An offset is taken from the time of day. -/
theorem instant_zoned {clock : Clock} (typed : clock.IsTyped) {zone : Zone}
    (zoneTyped : zone.IsTyped) (ordinary : date.IsOrdinary) :
    ∃ utc, Fields.instant ⟨date, clock.hour, clock.minute, clock.second, clock.nanosecond,
        zone.seconds⟩ = .ok utc ∧
      utc.milliseconds = (Instant.ofClock date clock.hour clock.minute clock.second
        clock.nanosecond).milliseconds - 1000 * zone.seconds := by
  obtain ⟨least, most⟩ := zoneTyped.bounds
  rw [largestOffset] at least most
  have isOffset : isOffset zone.seconds = true := by
    simp only [Rfc3339.isOffset, Bool.and_eq_true, decide_eq_true_eq]
    omega
  have isInstant := (Instant.ofClock_isValid ordinary.valid typed.hour typed.minute
    (Nat.le_succ_of_le typed.second) typed.nanosecond_lt).1
  have sameDate := Instant.ofClock_date date clock.hour clock.minute clock.second clock.nanosecond
  obtain ⟨utc, moved, milliseconds⟩ := Instant.ofLocal?_milliseconds isInstant
    (by rw [Instant.HasPlainYear, sameDate]; exact ⟨ordinary.notNegative, ordinary.fourDigits⟩)
    (show -86400 < zone.seconds by omega) (show zone.seconds < 86400 by omega)
  refine ⟨utc, ?_, milliseconds⟩
  simp only [Fields.instant, ordinary.valid, isOffset, moved, Bool.not_true, Bool.false_eq_true,
    if_false]

theorem milliseconds?_zoned {clock : Clock} (typed : clock.IsTyped) {zone : Zone}
    (zoneTyped : zone.IsTyped) (ordinary : date.IsOrdinary) :
    milliseconds? (dayText date ('T' :: clock.text zone.text)) =
      some ((Instant.ofClock date clock.hour clock.minute clock.second
        clock.nanosecond).milliseconds - 1000 * zone.seconds) := by
  obtain ⟨stops, noPoint⟩ := zone.text_stops
  obtain ⟨least, most⟩ := zoneTyped.bounds
  have inDay : Scan.inRange (-largestOffset) largestOffset zone.seconds = .ok () :=
    Scan.inRange_ok least most
  obtain ⟨utc, isInstant, milliseconds⟩ := instant_zoned typed zoneTyped ordinary
  have read :
      readStrict (String.ofList (dayText date ('T' :: clock.text zone.text))) = .ok utc := by
    rw [readStrict, String.toList_ofList,
      typed.readStrictFields ordinary stops noPoint,
      zoneTyped.read fun _ => Scan.literal_cons ':' _]
    simp only [bind, Except.bind, pure, Except.pure, inDay, List.isEmpty_nil, Bool.not_true,
      Bool.false_eq_true, if_false, isInstant]
  rw [milliseconds?, instant?, read, ← milliseconds]
  rfl

/-- A day that exists is so many days from the epoch. -/
theorem exists_isDaysFrom (valid : date.isValid = true) :
    ∃ days, date.IsDaysFrom Instant.epoch.date days ∧ days = date.dayNumber := by
  have epochNumber : Instant.epoch.date.dayNumber = 0 := by decide
  refine ⟨date.dayNumber, ?_, rfl⟩
  rw [Date.isDaysFrom_iff valid (by decide), epochNumber, Int.sub_zero]

/-- No day is accepted but those that exist, and these are counted from the epoch. -/
theorem milliseconds?_day (typed : date.IsTyped) :
    ((milliseconds? (dayText date [])).isSome = true ↔ date.isValid = true) ∧
      ∀ milliseconds, milliseconds? (dayText date []) = some milliseconds →
        ∃ days, date.IsDaysFrom Instant.epoch.date days ∧ milliseconds = 86400000 * days := by
  rw [milliseconds?_dayText typed]
  constructor
  · simp
  · intro milliseconds accepted
    obtain ⟨valid, same⟩ := Option.ite_none_right_eq_some.mp accepted
    obtain ⟨count, counted, rfl⟩ := exists_isDaysFrom valid
    exact ⟨_, counted, (Option.some.inj same).symm⟩

/-- The exact time is rounded down, also before the epoch. -/
theorem milliseconds?_floor {clock : Clock} (typed : clock.IsTyped) {zone : Zone}
    (zoneTyped : zone.IsTyped) (ordinary : date.IsOrdinary) :
    ∃ days, date.IsDaysFrom Instant.epoch.date days ∧
      milliseconds? (dayText date ('T' :: clock.text zone.text)) =
        some ⌊(86400 * days + clock.seconds - zone.seconds) * 1000⌋ := by
  obtain ⟨days, counted, rfl⟩ := exists_isDaysFrom ordinary.valid
  refine ⟨_, counted, ?_⟩
  have notLeap : clock.second ≠ 60 := by
    have seconds := typed.second
    omega
  rw [milliseconds?_zoned typed zoneTyped ordinary,
    Instant.milliseconds_ofClock date clock.hour clock.minute notLeap, typed.floor_eq]

theorem milliseconds?_local_eq_utc {clock : Clock} (typed : clock.IsTyped)
    (ordinary : date.IsOrdinary) :
    milliseconds? (dayText date ('T' :: clock.text [])) =
      milliseconds? (dayText date ('T' :: clock.text Zone.utc.text)) := by
  rw [milliseconds?_local typed ordinary,
    milliseconds?_zoned typed (show Zone.utc.IsTyped from trivial) ordinary]
  simp [Zone.seconds]

theorem milliseconds?_minute_eq_second (ordinary : date.IsOrdinary) (hours : hour ≤ 23)
    (minutes : minute ≤ 59) :
    milliseconds? (dayText date ('T' :: minuteText hour minute [])) =
      milliseconds? (dayText date ('T' :: secondText hour minute 0 [])) := by
  have typed : Clock.IsTyped ⟨hour, minute, 0, 0, 0⟩ :=
    ⟨hours, minutes, by simp, by simp, by simp⟩
  have sameText : Clock.text ⟨hour, minute, 0, 0, 0⟩ [] = secondText hour minute 0 [] := rfl
  have noFraction : Clock.nanosecond ⟨hour, minute, 0, 0, 0⟩ = 0 := Nat.zero_mul _
  have read := milliseconds?_local typed ordinary
  rw [sameText, noFraction] at read
  rw [milliseconds?_minuteText ordinary hours minutes, read]

theorem milliseconds?_day_eq_midnight (ordinary : date.IsOrdinary) :
    milliseconds? (dayText date []) = milliseconds? (dayText date ('T' :: minuteText 0 0 [])) := by
  rw [milliseconds?_dayText ordinary.isTyped, if_pos ordinary.valid,
    milliseconds?_minuteText ordinary (by decide) (by decide),
    Instant.milliseconds_ofClock date 0 0 (by decide), Option.some.injEq]
  omega

end

/-- A day is accepted if it exists, and counts as many milliseconds as the days from the epoch
have. A time of day with an offset denotes the exact point in UTC, rounded down, and all shorter
forms denote what the missing parts leave: no offset is UTC, and no second and no time are zero. -/
theorem milliseconds?_isExact :
    (∀ date : Date, 0 ≤ date.year → date.year ≤ 9999 → date.month ≤ 99 → date.day ≤ 99 →
      ((milliseconds? (dayText date [])).isSome = true ↔ date.isValid = true) ∧
        ∀ milliseconds, milliseconds? (dayText date []) = some milliseconds →
          ∃ days, date.IsDaysFrom Instant.epoch.date days ∧ milliseconds = 86400000 * days) ∧
    ∀ date : Date, 0 ≤ date.year → date.year ≤ 9999 → date.isValid = true →
      (∀ (clock : Clock) (zone : Zone), clock.IsTyped → zone.IsTyped →
        ∃ days, date.IsDaysFrom Instant.epoch.date days ∧
          milliseconds? (dayText date ('T' :: clock.text zone.text)) =
            some ⌊(86400 * days + clock.seconds - zone.seconds) * 1000⌋) ∧
      (∀ clock : Clock, clock.IsTyped →
        milliseconds? (dayText date ('T' :: clock.text [])) =
          milliseconds? (dayText date ('T' :: clock.text Zone.utc.text))) ∧
      (∀ hour minute, hour ≤ 23 → minute ≤ 59 →
        milliseconds? (dayText date ('T' :: minuteText hour minute [])) =
          milliseconds? (dayText date ('T' :: secondText hour minute 0 []))) ∧
      milliseconds? (dayText date []) =
        milliseconds? (dayText date ('T' :: minuteText 0 0 [])) := by
  constructor
  · intro date notNegative fourDigits months days
    exact milliseconds?_day ⟨notNegative, fourDigits, months, days⟩
  · intro date notNegative fourDigits valid
    have ordinary : date.IsOrdinary := ⟨valid, notNegative, fourDigits⟩
    refine ⟨?_, ?_, ?_, ?_⟩
    · intro clock zone typed zoneTyped
      exact milliseconds?_floor typed zoneTyped ordinary
    · intro clock typed
      exact milliseconds?_local_eq_utc typed ordinary
    · intro hour minute hours minutes
      exact milliseconds?_minute_eq_second ordinary hours minutes
    · exact milliseconds?_day_eq_midnight ordinary

theorem milliseconds?_isExact_beforeEpoch :
    Date.isValid ⟨1969, 12, 31⟩ = true ∧
      Clock.IsTyped ⟨23, 59, 59, 4, 9996⟩ ∧ Zone.IsTyped (.offset false 0 30) ∧
      milliseconds? "1969-12-31T23:59:59.9996+00:30".toList = some (-1800001) ∧
      milliseconds? "1969-12-31".toList = some (-86400000) := by
  have valid : Date.isValid ⟨1969, 12, 31⟩ = true := by decide
  have typed : Clock.IsTyped ⟨23, 59, 59, 4, 9996⟩ :=
    ⟨by decide, by decide, by decide, by decide, by decide⟩
  have zoneTyped : Zone.IsTyped (.offset false 0 30) := by decide
  refine ⟨valid, typed, zoneTyped, ?_, ?_⟩
  · obtain ⟨days, counted, value⟩ :=
      (milliseconds?_isExact.2 ⟨1969, 12, 31⟩ (by decide) (by decide) valid).1
        ⟨23, 59, 59, 4, 9996⟩ (.offset false 0 30) typed zoneTyped
    rw [Date.isDaysFrom_iff valid (by decide)] at counted
    have eve : days = -1 := by
      rw [counted]
      decide
    have floor : ⌊((86400 * (-1 : Int) + Clock.seconds ⟨23, 59, 59, 4, 9996⟩ -
        (Zone.offset false 0 30).seconds) * 1000 : ℚ)⌋ = -1800001 := by
      rw [Int.floor_eq_iff]
      norm_num [Clock.seconds, Zone.seconds]
    have written : dayText ⟨1969, 12, 31⟩
        ('T' :: Clock.text ⟨23, 59, 59, 4, 9996⟩ (Zone.offset false 0 30).text) =
          "1969-12-31T23:59:59.9996+00:30".toList := by
      decide +kernel
    rw [eve, floor, written] at value
    exact value
  · have accepted := milliseconds?_isExact.1 ⟨1969, 12, 31⟩ (by decide) (by decide) (by decide)
      (by decide)
    have written : dayText ⟨1969, 12, 31⟩ [] = "1969-12-31".toList := by
      decide +kernel
    rw [written] at accepted
    obtain ⟨milliseconds, isSome⟩ := Option.isSome_iff_exists.mp (accepted.1.mpr valid)
    obtain ⟨days, counted, rfl⟩ := accepted.2 milliseconds isSome
    rw [Date.isDaysFrom_iff valid (by decide)] at counted
    rw [isSome, counted]
    decide +kernel

end FilterDate

end AssetSearch.Time

/-
This file shows that every time that a filter value is read as exists, and that its milliseconds
fit in 64 bits.
-/

import AssetSearch.Proofs.Time.FilterDates

namespace AssetSearch.Time

theorem toOption_eq_some {Fault Content : Type} {result : Except Fault Content} {content : Content}
    (found : result.toOption = some content) : result = .ok content := by
  cases result with
  | error fault => cases found
  | ok other => exact congrArg Except.ok (Option.some.inj found)

/-- The days of the calendar are fewer than a hundred million on each side of the epoch. -/
theorem Date.dayNumber_bounds {date : Date} (valid : date.isValid = true) :
    -100000000 < date.dayNumber ∧ date.dayNumber < 100000000 := by
  obtain ⟨firstYears, lastYears, -⟩ := isValid_iff.mp valid
  have first : daysBeforeYear firstYear = -96465292 := by decide
  have last : daysBeforeYear (lastYear + 1) = 95026237 := by decide
  have lower := daysBeforeYear_mono firstYears
  have upper := daysBeforeYear_mono (show date.year + 1 ≤ lastYear + 1 by omega)
  have beforeDay := daysBeforeYear_le valid
  have afterDay := dayNumber_lt_nextYear valid
  omega

/-- The milliseconds of a time fit in 64 bits with a sign. -/
theorem Instant.IsValid.milliseconds_bounds {instant : Instant} (valid : instant.IsValid) :
    -2 ^ 63 ≤ instant.milliseconds ∧ instant.milliseconds < 2 ^ 63 := by
  obtain ⟨firstDays, lastDays⟩ := Date.dayNumber_bounds valid.date
  have day := valid.second
  have short := valid.nanosecond
  rw [milliseconds]
  omega

namespace Rfc3339

theorem readStrictFields_inRange {characters rest : List Char} {fields : Fields}
    (isOk : readStrictFields characters = .ok (fields, rest)) : fields.InRange := by
  obtain ⟨_, _, isOk⟩ := bind_isOk isOk
  obtain ⟨year, _, isOk⟩ := bind_isOk isOk
  obtain ⟨afterYear, _, isOk⟩ := bind_isOk isOk
  obtain ⟨month, _, isOk⟩ := bind_isOk isOk
  obtain ⟨afterMonth, _, isOk⟩ := bind_isOk isOk
  obtain ⟨day, _, isOk⟩ := bind_isOk isOk
  obtain ⟨_, _, isOk⟩ := bind_isOk isOk
  obtain ⟨afterDay, _, isOk⟩ := bind_isOk isOk
  obtain ⟨hour, _, isOk⟩ := bind_isOk isOk
  obtain ⟨afterHour, _, isOk⟩ := bind_isOk isOk
  obtain ⟨minute, _, isOk⟩ := bind_isOk isOk
  obtain ⟨afterMinute, _, isOk⟩ := bind_isOk isOk
  obtain ⟨second, _, isOk⟩ := bind_isOk isOk
  obtain ⟨fraction, nanoseconds, isOk⟩ := bind_isOk isOk
  obtain ⟨_, hours, isOk⟩ := bind_isOk isOk
  obtain ⟨_, minutes, isOk⟩ := bind_isOk isOk
  obtain ⟨_, seconds, isOk⟩ := bind_isOk isOk
  obtain ⟨offset, offsets, isOk⟩ := bind_isOk isOk
  obtain ⟨_, _, isOk⟩ := bind_isOk isOk
  cases isOk
  have hourRange := Scan.inRange_isOk hours
  have minuteRange := Scan.inRange_isOk minutes
  have secondRange := Scan.inRange_isOk seconds
  exact ⟨by simp only; omega, by simp only; omega, by simp only; omega,
    Scan.optionalFraction_isOk nanoseconds, Scan.offset_isOk offsets⟩

theorem readStrict_isValid {text : String} {instant : Instant}
    (isOk : readStrict text = .ok instant) : instant.IsValid := by
  obtain ⟨⟨fields, rest⟩, read, isOk⟩ := bind_isOk isOk
  simp only at isOk
  split at isOk
  · cases isOk
  · exact ((readStrictFields_inRange read).instant_isValid isOk).1

end Rfc3339

namespace FilterDate

variable {characters rest : List Char} {instant : Instant}

/-- The day of a local time is checked at the end. -/
theorem finish_isValid {date : Date} {hour minute second nanosecond : Nat} (hours : hour ≤ 23)
    (minutes : minute ≤ 59) (seconds : second ≤ 60) (short : nanosecond < 1000000000)
    (isOk : finish (Instant.ofClock date hour minute second nanosecond) rest = .ok instant) :
    instant.IsValid := by
  rw [finish] at isOk
  split at isOk
  · cases isOk
  · split at isOk
    · cases isOk
    · next isValid =>
        cases isOk
        rw [Instant.ofClock_date, Bool.not_eq_true, Bool.not_eq_false'] at isValid
        exact (Instant.ofClock_isValid isValid hours minutes seconds short).1

theorem readMinutes_ranges {date : Date} {hour minute : Nat}
    (isOk : readMinutes characters = .ok ((date, hour, minute), rest)) :
    hour ≤ 23 ∧ minute ≤ 59 := by
  obtain ⟨day, _, isOk⟩ := bind_isOk isOk
  obtain ⟨afterDay, _, isOk⟩ := bind_isOk isOk
  obtain ⟨readHour, _, isOk⟩ := bind_isOk isOk
  obtain ⟨_, hours, isOk⟩ := bind_isOk isOk
  obtain ⟨afterHour, _, isOk⟩ := bind_isOk isOk
  obtain ⟨readMinute, _, isOk⟩ := bind_isOk isOk
  obtain ⟨_, minutes, isOk⟩ := bind_isOk isOk
  cases isOk
  have hourRange := Scan.inRange_isOk hours
  have minuteRange := Scan.inRange_isOk minutes
  omega

theorem readSecondsLocal_isValid (isOk : readSecondsLocal characters = .ok instant) :
    instant.IsValid := by
  obtain ⟨⟨⟨date, hour, minute⟩, afterMinute⟩, clock, isOk⟩ := bind_isOk isOk
  obtain ⟨afterColon, _, isOk⟩ := bind_isOk isOk
  obtain ⟨second, _, isOk⟩ := bind_isOk isOk
  obtain ⟨_, seconds, isOk⟩ := bind_isOk isOk
  obtain ⟨fraction, nanoseconds, isOk⟩ := bind_isOk isOk
  obtain ⟨hours, minutes⟩ := readMinutes_ranges clock
  have secondRange := Scan.inRange_isOk seconds
  exact finish_isValid hours minutes (by omega) (Scan.optionalFraction_isOk nanoseconds) isOk

theorem readMinutesLocal_isValid (isOk : readMinutesLocal characters = .ok instant) :
    instant.IsValid := by
  obtain ⟨⟨⟨date, hour, minute⟩, afterMinute⟩, clock, isOk⟩ := bind_isOk isOk
  obtain ⟨hours, minutes⟩ := readMinutes_ranges clock
  exact finish_isValid hours minutes (by decide) (by decide) isOk

theorem readDay_isValid (isOk : readDay characters = .ok instant) : instant.IsValid := by
  obtain ⟨⟨date, afterDay⟩, _, isOk⟩ := bind_isOk isOk
  exact finish_isValid (by decide) (by decide) (by decide) (by decide) isOk

/-- Whichever form fits, the time exists. -/
theorem instant?_isValid (read : instant? characters = some instant) : instant.IsValid := by
  simp only [instant?, Option.orElse_eq_orElse, Option.orElse_eq_or, Option.or_eq_some_iff] at read
  rcases read with strict | ⟨-, seconds | ⟨-, minutes | ⟨-, day⟩⟩⟩
  · exact Rfc3339.readStrict_isValid (toOption_eq_some strict)
  · exact readSecondsLocal_isValid (toOption_eq_some seconds)
  · exact readMinutesLocal_isValid (toOption_eq_some minutes)
  · exact readDay_isValid (toOption_eq_some day)

theorem milliseconds?_bounds {milliseconds : Int}
    (read : milliseconds? characters = some milliseconds) :
    -2 ^ 63 ≤ milliseconds ∧ milliseconds < 2 ^ 63 := by
  obtain ⟨instant, found, rfl⟩ := Option.map_eq_some_iff.mp read
  exact (instant?_isValid found).milliseconds_bounds

end FilterDate

end AssetSearch.Time

/-
This file shows that documents may name a point in time with any offset and any number of places,
and that it is the exact one.
-/

import AssetSearch.Proofs.Time.DocumentTimes
import AssetSearch.Proofs.Time.FilterDates

namespace AssetSearch.Time

open AssetSearch.Text

namespace Rfc3339

open FilterDate

/-- The colon of an offset stands in front of a digit. -/
theorem looseColon_padded (value : Nat) :
    looseColon (':' :: ((padded 2 value).toList ++ [])) = .ok ((padded 2 value).toList ++ []) := by
  obtain ⟨digit, digits, written, isDigit⟩ := padded_eq_cons (show 0 < 2 by decide) value
  have notColon : digit ≠ ':' := by
    rintro rfl
    cases isDigit
  rw [looseColon, written, List.dropWhile_cons_of_pos (by decide), List.cons_append,
    List.dropWhile_cons_of_neg (by simp [notColon, isBlank_ofIsDigit isDigit])]

theorem readRelaxedOffset_zone {zone : Zone} (typed : zone.IsTyped) :
    readRelaxedOffset (trimStart zone.text) = .ok (zone.seconds, []) := by
  have read := typed.read looseColon_padded
  have solid : trimStart zone.text = zone.text := by
    cases zone with
    | utc => rfl
    | offset negative hours minutes => cases negative <;> rfl
  have notLetters : (zone.text.take 3).map Char.toUpper ≠ ['U', 'T', 'C'] := by
    cases zone with
    | utc => decide
    | offset negative hours minutes =>
        intro same
        cases negative with
        | false => exact absurd (List.cons.inj same).1 (by decide)
        | true => exact absurd (List.cons.inj same).1 (by decide)
  rw [solid, readRelaxedOffset, if_neg notLetters, read]

/-- The point in time is the exact one, rounded down to milliseconds here. -/
theorem readRelaxed_zoned {date : Date} {clock : Clock} {zone : Zone} (ordinary : date.IsOrdinary)
    (typed : clock.IsTyped) (zoneTyped : zone.IsTyped) :
    ∃ instant days,
      readRelaxed (String.ofList (dayText date ('T' :: clock.text zone.text))) = .ok instant ∧
      date.IsDaysFrom Instant.epoch.date days ∧
      instant.milliseconds = ⌊(86400 * days + clock.seconds - zone.seconds) * 1000⌋ := by
  obtain ⟨stops, noPoint⟩ := zone.text_stops
  obtain ⟨instant, isInstant, milliseconds⟩ := instant_zoned typed zoneTyped ordinary
  obtain ⟨days, counted, number⟩ := exists_isDaysFrom ordinary.valid
  have notLeap : clock.second ≠ 60 := by
    have seconds := typed.second
    omega
  refine ⟨instant, days, ?_, counted, ?_⟩
  · rw [readRelaxed, String.toList_ofList, Clock.text,
      readRelaxedFields_secondText ordinary.valid typed.hour typed.minute
        (Nat.le_succ_of_le typed.second) (typed.readFraction stops noPoint)
        (readRelaxedOffset_zone zoneTyped)]
    exact isInstant
  · rw [milliseconds, Instant.milliseconds_ofClock date clock.hour clock.minute notLeap,
      typed.floor_eq, number]

end Rfc3339

end AssetSearch.Time

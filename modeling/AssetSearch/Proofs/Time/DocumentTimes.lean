/-
This file shows that a time that is written into a document is read back from it, also when its
year is written with a sign.
-/

import AssetSearch.Proofs.Time.ReadTimes

namespace AssetSearch.Time

open AssetSearch.Text

namespace Scan

theorem trimStart_cons {character : Char} (solid : isBlank character = false) (rest : List Char) :
    trimStart (character :: rest) = character :: rest :=
  trimStart_eq_self (startsSolid_cons.mpr solid)

/-- A written year is read up to a character that is not a digit. -/
theorem year_yearText (value : Int) {rest : List Char} (stops : rest.takeWhile Char.isDigit = []) :
    year (trimStart ((Rfc3339.yearText value).toList ++ rest)) = .ok (value, rest) := by
  have enough := width_le_padded 4 value.natAbs
  have run : number 1 none ((Rfc3339.padded 4 value.natAbs).toList ++ rest) =
      .ok (value.natAbs, rest) := by
    rw [number_run (fun digit inside => isDigit_of_mem_padded inside) (by omega) stops,
      ofDigits_padded]
  by_cases plain : 0 ≤ value ∧ value ≤ 9999
  · have fourWide : value.toNat < 10000 := by omega
    rw [Rfc3339.yearText_plain plain.1 plain.2, trimStart_padded (by decide),
      year_padded fourWide, Int.toNat_of_nonneg plain.1]
  · rw [Rfc3339.yearText, if_neg plain, String.toList_append]
    by_cases negative : value < 0
    · rw [if_pos negative]
      change year (trimStart ('-' :: ((Rfc3339.padded 4 value.natAbs).toList ++ rest))) = _
      have magnitude : -(value.natAbs : Int) = value := by omega
      rw [trimStart_cons (by decide), year, run]
      simp only [bind, Except.bind, pure, Except.pure, magnitude]
    · rw [if_neg negative]
      change year (trimStart ('+' :: ((Rfc3339.padded 4 value.natAbs).toList ++ rest))) = _
      have magnitude : (value.natAbs : Int) = value := by omega
      rw [trimStart_cons (by decide), year, run]
      simp only [bind, Except.bind, pure, Except.pure, magnitude]

end Scan

namespace Rfc3339

/-- No blanks stand on either side of a mark. -/
theorem spacedLiteral_padded {mark : Char} (solid : isBlank mark = false) {width : Nat}
    (positive : 0 < width) (value : Nat) (rest : List Char) :
    spacedLiteral mark (mark :: ((padded width value).toList ++ rest)) =
      .ok ((padded width value).toList ++ rest) := by
  rw [spacedLiteral, Scan.trimStart_cons solid, Scan.literal_cons]
  simp only [bind, Except.bind, pure, Except.pure, trimStart_padded positive]

theorem readRelaxedOffset_Z : readRelaxedOffset (trimStart "Z".toList) = .ok (0, []) := rfl

/-- Every part of a time is read, up to the fraction and the offset behind the seconds. -/
theorem readRelaxedFields_secondText {date : Date} (valid : date.isValid = true)
    {hour minute second : Nat} (hours : hour ≤ 23) (minutes : minute ≤ 59) (seconds : second ≤ 60)
    {later rest final : List Char} {nanosecond : Nat} {offset : Int}
    (fraction : Scan.optionalFraction later = .ok (nanosecond, rest))
    (zone : readRelaxedOffset (trimStart rest) = .ok (offset, final)) :
    readRelaxedFields (dayText date ('T' :: secondText hour minute second later)) =
      .ok (⟨date, hour, minute, second, nanosecond, offset⟩, final) := by
  obtain ⟨firstYears, lastYears, -⟩ := Date.isValid_iff.mp valid
  obtain ⟨firstMonth, lastMonth, firstDay, lastDay⟩ := Date.isValid_ranges valid
  rw [firstYear] at firstYears
  rw [lastYear] at lastYears
  have yearRange : Scan.inRange (-2147483648) 2147483647 date.year = .ok () :=
    Scan.inRange_ok (by omega) (by omega)
  have monthRange : Scan.inRange 1 12 (date.month : Int) = .ok () :=
    Scan.inRange_ok (by omega) (by omega)
  have dayRange : Scan.inRange 1 31 (date.day : Int) = .ok () :=
    Scan.inRange_ok (by omega) (by omega)
  have hourRange : Scan.inRange 0 23 (hour : Int) = .ok () :=
    Scan.inRange_ok (by omega) (by omega)
  have minuteRange : Scan.inRange 0 59 (minute : Int) = .ok () :=
    Scan.inRange_ok (by omega) (by omega)
  have secondRange : Scan.inRange 0 60 (second : Int) = .ok () :=
    Scan.inRange_ok (by omega) (by omega)
  rw [dayText, readRelaxedFields, Scan.year_yearText _ rfl]
  simp only [bind, Except.bind, pure, Except.pure, yearRange, secondText, minuteText,
    spacedLiteral_padded (show isBlank '-' = false by decide) (show 0 < 2 by decide),
    spacedLiteral_padded (show isBlank ':' = false by decide) (show 0 < 2 by decide),
    dateTimeSeparator_T, Scan.shortNumber_padded (show date.month < 100 by omega), monthRange,
    Scan.shortNumber_padded (show date.day < 100 by omega), dayRange,
    Scan.shortNumber_padded (show hour < 100 by omega), hourRange,
    Scan.shortNumber_padded (show minute < 100 by omega), minuteRange,
    Scan.shortNumber_padded (show second < 100 by omega), secondRange, fraction, zone]

/-- Every part of the written form is read, and nothing is left. -/
theorem readRelaxedFields_text {instant : Instant} (valid : instant.IsValid) :
    readRelaxedFields (text instant).toList = .ok (writtenFields instant, []) := by
  obtain ⟨hours, minutes, seconds, nanoseconds⟩ := writtenFields_ranges valid
  have fraction :
      Scan.optionalFraction
          ((fractionText (writtenFields instant).nanosecond).toList ++ "Z".toList) =
        .ok ((writtenFields instant).nanosecond, "Z".toList) :=
    Scan.optionalFraction_fractionText nanoseconds (by decide) (by decide)
  rw [text, write_toList, readRelaxedFields_secondText valid.date hours minutes seconds fraction
    readRelaxedOffset_Z]
  rw [writtenFields]
  split
  · rfl
  · rfl

/-- A time in a document is read as it is written, whatever its year. -/
theorem readRelaxed_text {instant : Instant} (valid : instant.IsValid) :
    readRelaxed (text instant) = .ok instant.asWritten := by
  rw [readRelaxed, readRelaxedFields_text valid]
  exact writtenFields_instant valid

/-- A time that was read from some text is read from its own text. -/
theorem readRelaxed_text_ofRead {source : String} {instant : Instant}
    (read : readRelaxed source = .ok instant) : readRelaxed (text instant) = .ok instant := by
  obtain ⟨valid, ends⟩ := readRelaxed_isValid read
  rw [readRelaxed_text valid, Instant.asWritten_eq_self ends]

end Rfc3339

end AssetSearch.Time

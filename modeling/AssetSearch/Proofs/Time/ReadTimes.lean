/-
This file shows that every time that is read from a text exists. A leap second that is read follows
the last second of its minute, since offsets are whole minutes.
-/

import AssetSearch.Proofs.Results
import AssetSearch.Proofs.Time.StoredTime
import Mathlib.Data.List.TakeWhile

namespace AssetSearch.Time

open AssetSearch.Number

namespace Scan

theorem inRange_isOk {least most value : Int} (isOk : inRange least most value = .ok ()) :
    least ≤ value ∧ value ≤ most := by
  rw [inRange] at isOk
  split at isOk
  · assumption
  · cases isOk

/-- Some of the digits at the start are read, at least the smallest and at most the largest number
of them, and the rest begins behind them. -/
theorem number_reads {least value : Nat} {most : Option Nat} {characters rest : List Char}
    (isOk : number least most characters = .ok (value, rest)) :
    ∃ count, least ≤ count ∧ (∀ largest ∈ most, count ≤ largest) ∧
      count ≤ (characters.takeWhile Char.isDigit).length ∧
      ofDigits ((characters.takeWhile Char.isDigit).take count) = value ∧
      characters.drop count = rest := by
  rw [number] at isOk
  split at isOk
  · cases isOk
  · cases most with
    | none =>
        simp only at isOk
        split at isOk
        · cases isOk
        · next enough =>
            cases isOk
            refine ⟨_, Nat.le_of_not_lt enough, ?_, Nat.le_refl _, ?_, rfl⟩
            · intro largest same
              cases same
            · rw [List.take_length]
    | some most =>
        simp only at isOk
        split at isOk
        · cases isOk
        · next enough =>
            cases isOk
            refine ⟨_, Nat.le_of_not_lt enough, ?_, List.length_take_le' _ _, ?_, rfl⟩
            · intro largest same
              obtain rfl := Option.some.inj same
              exact List.length_take_le _ _
            · rw [List.length_take, ← List.take_eq_take_min]

/-- A number has as many digits as characters are read. -/
theorem number_isOk {least most value : Nat} {characters rest : List Char}
    (isOk : number least (some most) characters = .ok (value, rest)) :
    value < 10 ^ (characters.length - rest.length) ∧ characters.length - rest.length ≤ most := by
  obtain ⟨count, -, few, short, rfl, rfl⟩ := number_reads isOk
  have whole := (List.takeWhile_prefix Char.isDigit (l := characters)).length_le
  have read : characters.length - (characters.drop count).length =
      ((characters.takeWhile Char.isDigit).take count).length := by
    rw [List.length_drop, List.length_take]
    omega
  rw [read]
  refine ⟨ofDigits_lt ?_, ?_⟩
  · intro digit inside
    exact List.mem_takeWhile_imp (List.mem_of_mem_take inside)
  · exact Nat.le_trans (List.length_take_le _ _) (few most rfl)

/-- A fraction is less than a second. -/
theorem optionalFraction_isOk {characters rest : List Char} {nanosecond : Nat}
    (isOk : optionalFraction characters = .ok (nanosecond, rest)) : nanosecond < 1000000000 := by
  rw [optionalFraction.eq_def] at isOk
  split at isOk
  · next digits =>
      obtain ⟨⟨value, further⟩, read, scaled⟩ := bind_isOk isOk
      obtain ⟨small, few⟩ := number_isOk read
      simp only [pure, Except.pure, Except.ok.injEq, Prod.mk.injEq] at scaled
      rw [← scaled.1]
      generalize digits.length - further.length = places at *
      calc value * 10 ^ (9 - places)
          < 10 ^ places * 10 ^ (9 - places) :=
            Nat.mul_lt_mul_of_pos_right small (Nat.pow_pos (by decide))
        _ = 1000000000 := by
            rw [← Nat.pow_add, Nat.add_sub_cancel' few]
  · cases isOk
    decide

/-- Offsets are whole minutes. -/
theorem offset_isOk {separator : List Char → Except TimeFault (List Char)}
    {characters rest : List Char} {seconds : Int}
    (isOk : offset separator characters = .ok (seconds, rest)) : seconds % 60 = 0 := by
  rw [offset.eq_def] at isOk
  split at isOk
  · cases isOk
    rfl
  · cases isOk
    rfl
  · obtain ⟨⟨negative, afterSign⟩, _, isOk⟩ := bind_isOk isOk
    obtain ⟨⟨tens, ones, afterHours⟩, _, isOk⟩ := bind_isOk isOk
    obtain ⟨afterSeparator, _, isOk⟩ := bind_isOk isOk
    obtain ⟨⟨minutes, last⟩, _, isOk⟩ := bind_isOk isOk
    simp only [pure, Except.pure, Except.ok.injEq, Prod.mk.injEq] at isOk
    rw [← isOk.1]
    split <;> omega

end Scan

theorem one_le_daysInMonth (year : Int) (month : Nat) : 1 ≤ daysInMonth year month := by
  rw [daysInMonth.eq_def]
  split
  · split <;> omega
  all_goals omega

namespace Date

theorem next?_isValid {date following : Date} (valid : date.isValid = true)
    (next : date.next? = some following) : following.isValid = true := by
  obtain ⟨firstYears, lastYears, firstMonth, lastMonth, firstDay, lastDay⟩ := isValid_iff.mp valid
  simp only [next?, Option.ite_none_right_eq_some, Option.some.injEq] at next
  obtain ⟨covered, rfl⟩ := next
  rw [isValid_iff]
  split
  · next inside =>
      exact ⟨firstYears, lastYears, firstMonth, lastMonth, Nat.le_add_left _ _, inside⟩
  · split
    · next inside =>
        exact ⟨firstYears, lastYears, Nat.le_add_left _ _, inside, Nat.le_refl 1,
          one_le_daysInMonth _ _⟩
    · next notInside notEarlier =>
        rw [if_neg notInside, if_neg notEarlier] at covered
        exact ⟨Int.le_trans firstYears (Int.le_add_of_nonneg_right (by decide)), covered,
          Nat.le_refl 1, show 1 ≤ 12 by decide, Nat.le_refl 1, one_le_daysInMonth _ _⟩

theorem previous?_isValid {date preceding : Date} (valid : date.isValid = true)
    (previous : date.previous? = some preceding) : preceding.isValid = true := by
  obtain ⟨firstYears, lastYears, firstMonth, lastMonth, firstDay, lastDay⟩ := isValid_iff.mp valid
  simp only [previous?, Option.ite_none_right_eq_some, Option.some.injEq] at previous
  obtain ⟨covered, rfl⟩ := previous
  rw [isValid_iff]
  split
  · next inside =>
      exact ⟨firstYears, lastYears, firstMonth, lastMonth, Nat.le_sub_one_of_lt inside,
        Nat.le_trans (Nat.sub_le _ _) lastDay⟩
  · split
    · next inside =>
        exact ⟨firstYears, lastYears, Nat.le_sub_one_of_lt inside,
          Nat.le_trans (Nat.sub_le _ _) lastMonth, one_le_daysInMonth _ _, Nat.le_refl _⟩
    · next notInside notLater =>
        rw [if_neg notInside, if_neg notLater] at covered
        exact ⟨covered, Int.le_trans (Int.sub_le_self _ (by decide)) lastYears,
          show 1 ≤ 12 by decide, Nat.le_refl 12, show 1 ≤ 31 by decide, Nat.le_refl 31⟩

end Date

namespace Instant

/-- A time of day in the ranges of a clock exists, and its leap second ends a minute. -/
theorem ofClock_isValid {date : Date} {hour minute second nanosecond : Nat}
    (valid : date.isValid = true) (hours : hour ≤ 23) (minutes : minute ≤ 59)
    (seconds : second ≤ 60) (short : nanosecond < 1000000000) :
    (ofClock date hour minute second nanosecond).IsValid ∧
      (ofClock date hour minute second nanosecond).LeapEndsMinute := by
  rw [ofClock]
  split
  · refine ⟨⟨valid, ?_, ?_⟩, fun _ => ?_⟩ <;> simp only <;> omega
  · refine ⟨⟨valid, ?_, ?_⟩, fun leap => ?_⟩
    · simp only
      omega
    · simp only
      omega
    · simp only at leap
      omega

/-- An offset of whole minutes moves a time by days and minutes, and leaves its seconds. -/
theorem ofLocal?_isValid {instant shifted : Instant} {offset : Int} (valid : instant.IsValid)
    (ends : instant.LeapEndsMinute) (short : -86400 < offset ∧ offset < 86400)
    (whole : offset % 60 = 0) (moved : instant.ofLocal? offset = some shifted) :
    shifted.IsValid ∧ shifted.LeapEndsMinute := by
  have day := valid.second
  have minute (second : Int) (same : second % 60 = (instant.secondOfDay - offset) % 60)
      (notNegative : 0 ≤ second) (leap : 1000000000 ≤ instant.nanosecond) :
      second.toNat % 60 = 59 := by
    have last := ends leap
    omega
  simp only [ofLocal?] at moved
  split at moved
  · next before =>
      obtain ⟨date, previous, rfl⟩ := Option.map_eq_some_iff.mp moved
      refine ⟨⟨Date.previous?_isValid valid.date previous, ?_, valid.nanosecond⟩, ?_⟩
      · simp only
        omega
      · exact minute _ (by omega) (by omega)
  · next notBefore =>
      split at moved
      · next following =>
          obtain ⟨date, next, rfl⟩ := Option.map_eq_some_iff.mp moved
          refine ⟨⟨Date.next?_isValid valid.date next, ?_, valid.nanosecond⟩, ?_⟩
          · simp only
            omega
          · exact minute _ (by omega) (by omega)
      · next notFollowing =>
          obtain rfl := Option.some.inj moved
          refine ⟨⟨valid.date, ?_, valid.nanosecond⟩, ?_⟩
          · simp only
            omega
          · exact minute _ (by omega) (by omega)

end Instant

namespace Rfc3339

/-- The parts of a local time are in the ranges of a clock, and its offset is whole minutes. -/
structure Fields.InRange (fields : Fields) : Prop where
  hour : fields.hour ≤ 23
  minute : fields.minute ≤ 59
  second : fields.second ≤ 60
  nanosecond : fields.nanosecond < 1000000000
  offset : fields.offset % 60 = 0

theorem Fields.InRange.instant_isValid {fields : Fields} (inRange : fields.InRange)
    {instant : Instant} (isOk : fields.instant = .ok instant) :
    instant.IsValid ∧ instant.LeapEndsMinute := by
  rw [Fields.instant] at isOk
  split at isOk
  · cases isOk
  · next date =>
      split at isOk
      · cases isOk
      · next offset =>
          simp only [Bool.not_eq_true', Bool.not_eq_false, isOffset, Bool.and_eq_true,
            decide_eq_true_eq] at date offset
          obtain ⟨valid, ends⟩ := Instant.ofClock_isValid date inRange.hour inRange.minute
            inRange.second inRange.nanosecond
          simp only at isOk
          split at isOk
          · next moved =>
              cases isOk
              exact Instant.ofLocal?_isValid valid ends offset inRange.offset moved
          · cases isOk

theorem readRelaxedOffset_isOk {characters rest : List Char} {seconds : Int}
    (isOk : readRelaxedOffset characters = .ok (seconds, rest)) : seconds % 60 = 0 := by
  rw [readRelaxedOffset] at isOk
  split at isOk
  · cases isOk
    rfl
  · exact Scan.offset_isOk isOk

theorem readRelaxedFields_inRange {characters rest : List Char} {fields : Fields}
    (isOk : readRelaxedFields characters = .ok (fields, rest)) : fields.InRange := by
  obtain ⟨year, _, isOk⟩ := bind_isOk isOk
  obtain ⟨_, _, isOk⟩ := bind_isOk isOk
  obtain ⟨afterYear, _, isOk⟩ := bind_isOk isOk
  obtain ⟨month, _, isOk⟩ := bind_isOk isOk
  obtain ⟨_, _, isOk⟩ := bind_isOk isOk
  obtain ⟨afterMonth, _, isOk⟩ := bind_isOk isOk
  obtain ⟨day, _, isOk⟩ := bind_isOk isOk
  obtain ⟨_, _, isOk⟩ := bind_isOk isOk
  obtain ⟨afterDay, _, isOk⟩ := bind_isOk isOk
  obtain ⟨hour, _, isOk⟩ := bind_isOk isOk
  obtain ⟨_, hours, isOk⟩ := bind_isOk isOk
  obtain ⟨afterHour, _, isOk⟩ := bind_isOk isOk
  obtain ⟨minute, _, isOk⟩ := bind_isOk isOk
  obtain ⟨_, minutes, isOk⟩ := bind_isOk isOk
  obtain ⟨afterMinute, _, isOk⟩ := bind_isOk isOk
  obtain ⟨second, _, isOk⟩ := bind_isOk isOk
  obtain ⟨_, seconds, isOk⟩ := bind_isOk isOk
  obtain ⟨fraction, nanoseconds, isOk⟩ := bind_isOk isOk
  obtain ⟨offset, offsets, isOk⟩ := bind_isOk isOk
  cases isOk
  have hourRange := Scan.inRange_isOk hours
  have minuteRange := Scan.inRange_isOk minutes
  have secondRange := Scan.inRange_isOk seconds
  exact ⟨by simp only; omega, by simp only; omega, by simp only; omega,
    Scan.optionalFraction_isOk nanoseconds, readRelaxedOffset_isOk offsets⟩

/-- A time that is read from a text exists, also when it is a leap second. -/
theorem readRelaxed_isValid {text : String} {instant : Instant}
    (isOk : readRelaxed text = .ok instant) : instant.IsValid ∧ instant.LeapEndsMinute := by
  obtain ⟨⟨fields, rest⟩, read, isOk⟩ := bind_isOk isOk
  simp only at isOk
  split at isOk
  · cases isOk
  · exact (readRelaxedFields_inRange read).instant_isValid isOk

end Rfc3339

end AssetSearch.Time

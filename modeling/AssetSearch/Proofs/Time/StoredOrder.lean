/-
This file shows that stored times stand in the order of the points in time that they are read as,
also when they are compared byte by byte. Their fractions have different numbers of places, and the
sign of the offset, which comes before the point and the digits, ends the shorter of them.
-/

import AssetSearch.Proofs.Text.Ordered
import AssetSearch.Proofs.Time.DayNumbers

namespace AssetSearch.Time

open AssetSearch.Number
open AssetSearch.Text

/-- Digits are compared by their values. -/
theorem digitValue_lt_iff {first second : Char} (digit : first.isDigit = true)
    (other : second.isDigit = true) :
    digitValue first < digitValue second ↔ first < second := by
  have firstBounds := isDigit_iff.mp digit
  have secondBounds := isDigit_iff.mp other
  have zero : '0'.toNat = 48 := rfl
  have order : first < second ↔ first.toNat < second.toNat := Iff.rfl
  rw [digitValue, digitValue, order]
  omega

/-- This is the value of the digits with zeros behind them up to the given number of places. -/
def inPlaces (places : Nat) (digits : List Char) : Nat :=
  ofDigits digits * 10 ^ (places - digits.length)

theorem inPlaces_cons {places : Nat} {digits : List Char} (short : digits.length ≤ places)
    (digit : Char) :
    inPlaces (places + 1) (digit :: digits) =
      digitValue digit * 10 ^ places + inPlaces places digits := by
  have places : digits.length + (places - digits.length) = places := Nat.add_sub_cancel' short
  rw [inPlaces, inPlaces, ofDigits_cons, List.length_cons, Nat.add_sub_add_right, Nat.add_mul,
    Nat.mul_assoc, ← Nat.pow_add, places]

theorem inPlaces_lt {places : Nat} {digits : List Char}
    (allDigits : ∀ digit ∈ digits, digit.isDigit = true) (short : digits.length ≤ places) :
    inPlaces places digits < 10 ^ places := by
  calc inPlaces places digits
      < 10 ^ digits.length * 10 ^ (places - digits.length) :=
        Nat.mul_lt_mul_of_pos_right (ofDigits_lt allDigits) (Nat.pow_pos (by decide))
    _ = 10 ^ places := by
        rw [← Nat.pow_add, Nat.add_sub_cancel' short]

/-- The first digit decides, and only if it is the same do the later ones count. -/
theorem inPlaces_cons_lt_iff {places : Nat} {firstDigit secondDigit : Char}
    {firstLater secondLater : List Char}
    (firstDigits : ∀ digit ∈ firstDigit :: firstLater, digit.isDigit = true)
    (secondDigits : ∀ digit ∈ secondDigit :: secondLater, digit.isDigit = true)
    (firstShort : firstLater.length ≤ places) (secondShort : secondLater.length ≤ places) :
    inPlaces (places + 1) (firstDigit :: firstLater) <
        inPlaces (places + 1) (secondDigit :: secondLater) ↔
      firstDigit < secondDigit ∨ firstDigit = secondDigit ∧
        inPlaces places firstLater < inPlaces places secondLater := by
  obtain ⟨isDigit, laterDigits⟩ := List.forall_mem_cons.mp firstDigits
  obtain ⟨otherIsDigit, otherDigits⟩ := List.forall_mem_cons.mp secondDigits
  have firstBounded := inPlaces_lt laterDigits firstShort
  have secondBounded := inPlaces_lt otherDigits secondShort
  have carry {less greater : Nat} (order : less < greater) :
      less * 10 ^ places + 10 ^ places ≤ greater * 10 ^ places :=
    Nat.succ_mul less _ ▸ Nat.mul_le_mul_right _ (Nat.succ_le_of_lt order)
  rw [inPlaces_cons firstShort, inPlaces_cons secondShort]
  rcases lt_trichotomy firstDigit secondDigit with before | rfl | after
  · have step := carry ((digitValue_lt_iff isDigit otherIsDigit).mpr before)
    simp only [before, true_or, iff_true]
    omega
  · simp
  · have step := carry ((digitValue_lt_iff otherIsDigit isDigit).mpr after)
    simp only [after.not_gt, after.ne', false_and, or_false, iff_false]
    omega

/-- Of two runs of digits the one with the smaller value comes first. A run that is shorter must
end in front of a character that comes before all digits. -/
theorem digits_append_lt {places : Nat} {first second rest other : List Char}
    (firstDigits : ∀ digit ∈ first, digit.isDigit = true)
    (secondDigits : ∀ digit ∈ second, digit.isDigit = true)
    (firstShort : first.length ≤ places) (secondShort : second.length ≤ places)
    (smaller : inPlaces places first < inPlaces places second)
    (ends : first.length = second.length ∨ ∀ digit ∈ second, ∀ later, rest < digit :: later) :
    first ++ rest < second ++ other := by
  -- Each digit takes one place with it, so that both runs always have the same places left.
  induction first generalizing places second with
  | nil =>
      cases second with
      | nil => exact absurd smaller (Nat.lt_irrefl _)
      | cons digit digits =>
          rcases ends with same | before
          · cases same
          · exact before digit List.mem_cons_self _
  | cons firstDigit firstLater inductionHypothesis =>
      cases second with
      | nil =>
          rw [inPlaces, inPlaces, show ofDigits [] = 0 from rfl, Nat.zero_mul] at smaller
          exact absurd smaller (Nat.not_lt_zero _)
      | cons secondDigit secondLater =>
          obtain ⟨fewer, rfl⟩ : ∃ fewer, places = fewer + 1 :=
            Nat.exists_eq_add_one_of_ne_zero (by rintro rfl; cases firstShort)
          have firstFits := Nat.le_of_succ_le_succ firstShort
          have secondFits := Nat.le_of_succ_le_succ secondShort
          have laterEnds : firstLater.length = secondLater.length ∨
              ∀ digit ∈ secondLater, ∀ later, rest < digit :: later :=
            ends.imp Nat.succ.inj fun before digit inside =>
              before digit (List.mem_cons_of_mem _ inside)
          rw [inPlaces_cons_lt_iff firstDigits secondDigits firstFits secondFits] at smaller
          rw [List.cons_append, List.cons_append, List.cons_lt_cons_iff]
          exact smaller.imp_right (And.imp_right fun laterSmaller =>
            inductionHypothesis (List.forall_mem_cons.mp firstDigits).2
              (List.forall_mem_cons.mp secondDigits).2 firstFits secondFits laterSmaller laterEnds)

namespace Rfc3339

/-- Numbers of one width are compared before what follows them. -/
theorem padded_append_lt {width first second : Nat} {rest other : List Char} (positive : 0 < width)
    (firstFits : first < 10 ^ width) (secondFits : second < 10 ^ width)
    (before : first < second ∨ first = second ∧ rest < other) :
    (padded width first).toList ++ rest < (padded width second).toList ++ other := by
  rcases before with smaller | ⟨rfl, later⟩
  · have firstSpells := padded_spells positive firstFits
    have secondSpells := padded_spells positive secondFits
    have whole {value : Nat} {digits : List Char} (spells : Spells width value digits) :
        inPlaces width digits = value := by
      rw [inPlaces, spells.value, spells.length, Nat.sub_self, Nat.pow_zero, Nat.mul_one]
    refine digits_append_lt firstSpells.digits secondSpells.digits firstSpells.length.le
      secondSpells.length.le ?_ (Or.inl (firstSpells.length.trans secondSpells.length.symm))
    rw [whole firstSpells, whole secondSpells]
    exact smaller
  · exact List.append_left_lt later

theorem padded_cons_lt {width first second : Nat} {mark : Char} {rest other : List Char}
    {later : Prop} (positive : 0 < width) (firstFits : first < 10 ^ width)
    (secondFits : second < 10 ^ width) (step : later → rest < other)
    (before : first < second ∨ first = second ∧ later) :
    (padded width first).toList ++ mark :: rest < (padded width second).toList ++ mark :: other :=
  padded_append_lt positive firstFits secondFits
    (before.imp_right (And.imp_right fun given => List.cons_lt_cons_self.mpr (step given)))

/-- The sign of the offset comes before the point and before all digits. -/
theorem fractionText_append_lt {first second : Nat} (smaller : first < second)
    (small : second < 1000000000) :
    (fractionText first).toList ++ "+00:00".toList <
      (fractionText second).toList ++ "+00:00".toList := by
  have offset : "+00:00".toList = '+' :: "00:00".toList := rfl
  obtain ⟨secondPlaces, secondValue, secondDigits, secondWritten, secondSpells, -, secondFew,
    secondWhole⟩ := Scan.fractionText_spelled (Nat.ne_zero_of_lt smaller) small
  -- Without a fraction the sign of the offset stands where the other text has its point.
  by_cases zero : first = 0
  · rw [zero, fractionText, if_pos rfl, String.toList_empty, List.nil_append, secondWritten, offset]
    exact List.Lex.rel (by decide)
  · obtain ⟨firstPlaces, firstValue, firstDigits, firstWritten, firstSpells, -, firstFew,
      firstWhole⟩ := Scan.fractionText_spelled zero (smaller.trans small)
    rw [firstWritten, secondWritten, List.cons_append, List.cons_append, List.cons_lt_cons_self]
    have smallerDigits : inPlaces 9 firstDigits < inPlaces 9 secondDigits := by
      rw [inPlaces, inPlaces, firstSpells.value, firstSpells.length, secondSpells.value,
        secondSpells.length, firstWhole, secondWhole]
      exact smaller
    refine digits_append_lt firstSpells.digits secondSpells.digits
      (firstSpells.length.le.trans firstFew) (secondSpells.length.le.trans secondFew) smallerDigits
      (Or.inr ?_)
    intro digit inside later
    have isDigit := secondSpells.digits digit inside
    simp only [Char.isDigit, Bool.and_eq_true, decide_eq_true_eq] at isDigit
    rw [offset]
    exact List.Lex.rel (lt_of_lt_of_le (show '+' < '0' by decide) isDigit.1)

/-- Fields are compared from the date down to the nanosecond. -/
def Fields.Precedes (first second : Fields) : Prop :=
  first.date.Precedes second.date ∨ first.date = second.date ∧
    (first.hour < second.hour ∨ first.hour = second.hour ∧
      (first.minute < second.minute ∨ first.minute = second.minute ∧
        (first.second < second.second ∨ first.second = second.second ∧
          first.nanosecond < second.nanosecond)))

end Rfc3339

namespace Instant

/-- The time can be written in a row of the catalog and is read back as it is. -/
structure IsStorable (instant : Instant) : Prop where
  valid : instant.IsValid
  plain : instant.HasPlainYear
  ends : instant.LeapEndsMinute

theorem isBefore_iff {first second : Instant} (valid : first.IsValid) (other : second.IsValid) :
    first.isBefore second = true ↔ first.date.Precedes second.date ∨ first.date = second.date ∧
      (first.secondOfDay < second.secondOfDay ∨ first.secondOfDay = second.secondOfDay ∧
        first.nanosecond < second.nanosecond) := by
  rw [isBefore, ← Date.dayNumber_lt_iff valid.date other.date,
    ← Date.dayNumber_inj valid.date other.date]
  split
  · next days =>
      rw [decide_eq_true_eq]
      omega
  · split
    · next days seconds =>
        rw [decide_eq_true_eq]
        omega
    · next days seconds =>
        rw [decide_eq_true_eq]
        omega

/-- Two points in time are the same, or one of them comes first. -/
theorem eq_or_isBefore {first second : Instant} (valid : first.IsValid) (other : second.IsValid) :
    first = second ∨ first.isBefore second = true ∨ second.isBefore first = true := by
  rw [isBefore_iff valid other, isBefore_iff other valid]
  rcases Date.eq_or_precedes first.date second.date with sameDate | before | after
  · rcases Nat.lt_trichotomy first.secondOfDay second.secondOfDay with less | same | greater
    · exact Or.inr (Or.inl (Or.inr ⟨sameDate, Or.inl less⟩))
    · rcases Nat.lt_trichotomy first.nanosecond second.nanosecond with less | equal | greater
      · exact Or.inr (Or.inl (Or.inr ⟨sameDate, Or.inr ⟨same, less⟩⟩))
      · left
        cases first
        cases second
        simp_all
      · exact Or.inr (Or.inr (Or.inr ⟨sameDate.symm, Or.inr ⟨same.symm, greater⟩⟩))
    · exact Or.inr (Or.inr (Or.inr ⟨sameDate.symm, Or.inl greater⟩))
  · exact Or.inr (Or.inl (Or.inl before))
  · exact Or.inr (Or.inr (Or.inl after))

end Instant

namespace Rfc3339

/-- The second number sixty of a leap second comes after the second number fifty-nine. -/
theorem writtenFields_precedes {first second : Instant} (storable : first.IsStorable)
    (other : second.IsStorable) (before : first.isBefore second = true) :
    (writtenFields first).Precedes (writtenFields second) := by
  have firstShort := storable.valid.nanosecond
  have firstEnds := storable.ends
  have secondEnds := other.ends
  rw [Instant.isBefore_iff storable.valid other.valid] at before
  rw [Instant.LeapEndsMinute] at firstEnds secondEnds
  rw [Fields.Precedes, writtenFields_date, writtenFields_date]
  rcases before with earlier | ⟨sameDate, clock⟩
  · exact Or.inl earlier
  · right
    refine ⟨sameDate, ?_⟩
    rw [writtenFields, writtenFields]
    split
    · split <;> simp only <;> omega
    · split <;> simp only <;> omega

/-- What is compared after the dates is compared after their years, months and days. -/
theorem precedes_parts {first second : Date} {later : Prop} (natural : 0 ≤ first.year)
    (before : first.Precedes second ∨ first = second ∧ later) :
    first.year.toNat < second.year.toNat ∨ first.year.toNat = second.year.toNat ∧
      (first.month < second.month ∨ first.month = second.month ∧
        (first.day < second.day ∨ first.day = second.day ∧ later)) := by
  rcases before with (year | ⟨sameYear, month | ⟨sameMonth, day⟩⟩) | ⟨rfl, later⟩
  · exact Or.inl (by omega)
  · exact Or.inr ⟨congrArg Int.toNat sameYear, Or.inl month⟩
  · exact Or.inr ⟨congrArg Int.toNat sameYear, Or.inr ⟨sameMonth, Or.inl day⟩⟩
  · exact Or.inr ⟨rfl, Or.inr ⟨rfl, Or.inr ⟨rfl, later⟩⟩⟩

/-- Every part is written with a fixed width, down to the fraction. -/
theorem storedText_lt {first second : Instant} (storable : first.IsStorable)
    (other : second.IsStorable) (before : first.isBefore second = true) :
    storedText first < storedText second := by
  obtain ⟨firstHours, firstMinutes, firstSeconds, firstFraction⟩ :=
    writtenFields_ranges storable.valid
  obtain ⟨secondHours, secondMinutes, secondSeconds, secondFraction⟩ :=
    writtenFields_ranges other.valid
  obtain ⟨-, firstMonths, -, firstDays⟩ := Date.isValid_ranges storable.valid.date
  obtain ⟨-, secondMonths, -, secondDays⟩ := Date.isValid_ranges other.valid.date
  obtain ⟨firstNatural, firstYears⟩ := storable.plain
  obtain ⟨secondNatural, secondYears⟩ := other.plain
  have precedes := writtenFields_precedes storable other before
  rw [Fields.Precedes, writtenFields_date, writtenFields_date] at precedes
  rw [String.lt_iff_toList_lt, storedText, storedText, write_toList, write_toList, dayText, dayText,
    yearText_plain firstNatural firstYears, yearText_plain secondNatural secondYears]
  have two : 0 < 2 := by decide
  refine padded_cons_lt (by decide) (by omega) (by omega) (fun months => ?_)
    (precedes_parts firstNatural precedes)
  refine padded_cons_lt two (by omega) (by omega) (fun days => ?_) months
  refine padded_cons_lt two (by omega) (by omega) (fun hours => ?_) days
  refine padded_cons_lt two (by omega) (by omega) (fun minutes => ?_) hours
  refine padded_cons_lt two (by omega) (by omega) (fun seconds => ?_) minutes
  exact padded_append_lt two (by omega) (by omega)
    (seconds.imp_right (And.imp_right fun less => fractionText_append_lt less secondFraction))

/-- Stored times stand in the order of the points in time. -/
theorem storedText_lt_iff {first second : Instant} (storable : first.IsStorable)
    (other : second.IsStorable) :
    storedText first < storedText second ↔ first.isBefore second = true :=
  (order_reflected (Instant.eq_or_isBefore storable.valid other.valid)
    (storedText_lt storable other) (storedText_lt other storable)).1

theorem storedText_inj {first second : Instant} (storable : first.IsStorable)
    (other : second.IsStorable) : storedText first = storedText second ↔ first = second :=
  (order_reflected (Instant.eq_or_isBefore storable.valid other.valid)
    (storedText_lt storable other) (storedText_lt other storable)).2

end Rfc3339

end AssetSearch.Time

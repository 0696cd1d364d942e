/-
This file shows what the readers of parts of times make of numbers that are written in decimal with
zeros in front, whatever follows them.
-/

import AssetSearch.Proofs.Number.Numeral
import AssetSearch.Proofs.Text.Blank
import AssetSearch.Proofs.Text.Bytes
import AssetSearch.Proofs.Text.Intervals
import AssetSearch.Time.Rfc3339
import Mathlib.Algebra.Group.Nat.Defs

namespace AssetSearch.Time

open AssetSearch.Number
open AssetSearch.Text

/-- The value is written with so many decimal digits. -/
structure Spells (width value : Nat) (characters : List Char) : Prop where
  digits : ∀ character ∈ characters, character.isDigit = true
  length : characters.length = width
  value : ofDigits characters = value

theorem padded_toList (width value : Nat) :
    (Rfc3339.padded width value).toList =
      List.replicate (width - (Nat.toDigits 10 value).length) '0' ++ Nat.toDigits 10 value := by
  have digits : (toString value).toList = Nat.toDigits 10 value := Nat.toList_repr
  rw [Rfc3339.padded, String.toList_append, String.toList_ofList, digits, ← String.length_toList,
    digits]

theorem width_le_padded (width value : Nat) :
    width ≤ (Rfc3339.padded width value).toList.length := by
  rw [padded_toList, List.length_append, List.length_replicate]
  omega

theorem isDigit_of_mem_padded {width value : Nat} {character : Char}
    (inside : character ∈ (Rfc3339.padded width value).toList) : character.isDigit = true := by
  rw [padded_toList] at inside
  rcases List.mem_append.mp inside with zero | digit
  · rw [List.eq_of_mem_replicate zero]
    rfl
  · exact Nat.isDigit_of_mem_toDigits (by decide) (by decide) digit

/-- The zeros in front do not count. -/
theorem ofDigits_padded (width value : Nat) :
    ofDigits (Rfc3339.padded width value).toList = value := by
  rw [padded_toList, ofDigits_eq_ofDigitChars, Nat.ofDigitChars_append,
    Nat.ofDigitChars_replicate_zero, Nat.mul_zero, Nat.ofDigitChars_ten_toDigits]

/-- A number that is not too large for the width is written with that many digits. -/
theorem padded_spells {width value : Nat} (positive : 0 < width) (fits : value < 10 ^ width) :
    Spells width value (Rfc3339.padded width value).toList := by
  have short := (Nat.length_toDigits_le_iff (by decide) positive).mpr fits
  refine ⟨fun character inside => isDigit_of_mem_padded inside, ?_, ofDigits_padded width value⟩
  rw [padded_toList, List.length_append, List.length_replicate]
  omega

theorem isBlank_ofIsDigit {character : Char} (digit : character.isDigit = true) :
    isBlank character = false := by
  have bounds := isDigit_iff.mp digit
  refine Bool.eq_false_iff.mpr fun blank => ?_
  obtain ⟨interval, inside, least, most⟩ := Intervals.exists_of_contains blank
  simp only [blankIntervals, List.mem_cons, List.not_mem_nil, or_false] at inside
  rcases inside with rfl | rfl | rfl | rfl | rfl | rfl | rfl | rfl | rfl | rfl
  all_goals omega

/-- A number is written with at least one digit, and its first character is a digit. -/
theorem padded_eq_cons {width : Nat} (positive : 0 < width) (value : Nat) :
    ∃ digit digits, (Rfc3339.padded width value).toList = digit :: digits ∧
      digit.isDigit = true := by
  have wide := width_le_padded width value
  cases written : (Rfc3339.padded width value).toList with
  | nil =>
      rw [written, List.length_nil] at wide
      omega
  | cons digit digits =>
      exact ⟨digit, digits, rfl, isDigit_of_mem_padded (written ▸ List.mem_cons_self)⟩

/-- No blanks stand before a number. -/
theorem trimStart_padded {width : Nat} (positive : 0 < width) (value : Nat) (rest : List Char) :
    trimStart ((Rfc3339.padded width value).toList ++ rest) =
      (Rfc3339.padded width value).toList ++ rest := by
  obtain ⟨digit, digits, written, isDigit⟩ := padded_eq_cons positive value
  rw [written, List.cons_append]
  exact trimStart_eq_self (startsSolid_cons.mpr (isBlank_ofIsDigit isDigit))

theorem length_le_byteLength (characters : List Char) :
    characters.length ≤ byteLength characters := by
  induction characters with
  | nil => exact Nat.le_refl _
  | cons character rest inductionHypothesis =>
      have wide := character.utf8Size_pos
      rw [List.length_cons, byteLength]
      omega

/-- A digit is written with one byte. -/
theorem byteLength_digits {characters : List Char}
    (digits : ∀ character ∈ characters, character.isDigit = true) :
    byteLength characters = characters.length := by
  induction characters with
  | nil => rfl
  | cons character rest inductionHypothesis =>
      obtain ⟨digit, others⟩ := List.forall_mem_cons.mp digits
      have bounds := isDigit_iff.mp digit
      have oneByte : character.utf8Size = 1 := by
        rw [Char.utf8Size, if_pos]
        rw [UInt32.le_iff_toNat_le]
        exact Nat.le_trans bounds.2 (by decide)
      rw [byteLength, List.length_cons, inductionHypothesis others, oneByte, Nat.add_comm]

theorem byteLength_padded {width value : Nat} (positive : 0 < width) (fits : value < 10 ^ width) :
    byteLength (Rfc3339.padded width value).toList = width := by
  obtain ⟨digits, length, -⟩ := padded_spells positive fits
  rw [byteLength_digits digits, length]

namespace Scan

/-- Digits are read up to the largest number of them, or up to the end of their run. -/
theorem number_spelled {least most width value : Nat} {characters : List Char}
    (spells : Spells width value characters) (enough : least ≤ width) (fits : width ≤ most)
    (rest : List Char) (stops : (rest.takeWhile Char.isDigit).take (most - width) = []) :
    number least (some most) (characters ++ rest) = .ok (value, rest) := by
  have bytes : hasBytes least (characters ++ rest) = true := by
    have long := length_le_byteLength characters
    rw [hasBytes, byteLength_append, decide_eq_true_eq, ← spells.length] at *
    omega
  have run : ((characters ++ rest).takeWhile Char.isDigit).take most = characters := by
    rw [List.takeWhile_append_of_pos spells.digits, List.take_append, spells.length, stops,
      List.append_nil, List.take_of_length_le (by rw [spells.length]; exact fits)]
  have notShort : ¬ width < least := Nat.not_lt.mpr enough
  rw [number]
  simp only [bytes, run, Bool.not_true, Bool.false_eq_true, if_false, spells.length, notShort,
    spells.value]
  rw [← spells.length, List.drop_left]

/-- A number that is as wide as it may be is read whatever follows it. -/
theorem number_padded {width value : Nat} (positive : 0 < width) (fits : value < 10 ^ width)
    (rest : List Char) :
    number width (some width) ((Rfc3339.padded width value).toList ++ rest) = .ok (value, rest) :=
  number_spelled (padded_spells positive fits) (Nat.le_refl _) (Nat.le_refl _) rest (by simp)

/-- Readers that do not ask for two digits take both of them. -/
theorem shortNumber_padded {value : Nat} (fits : value < 100) (rest : List Char) :
    shortNumber ((Rfc3339.padded 2 value).toList ++ rest) = .ok (value, rest) := by
  rw [shortNumber, trimStart_padded (by decide)]
  exact number_spelled (padded_spells (by decide) fits) (by decide) (Nat.le_refl _) rest (by simp)

/-- Without a largest number of digits the whole run of them is read. -/
theorem number_run {least : Nat} {digits : List Char}
    (allDigits : ∀ digit ∈ digits, digit.isDigit = true) (enough : least ≤ digits.length)
    {rest : List Char} (stops : rest.takeWhile Char.isDigit = []) :
    number least none (digits ++ rest) = .ok (ofDigits digits, rest) := by
  have bytes : hasBytes least (digits ++ rest) = true := by
    have long := length_le_byteLength digits
    rw [hasBytes, byteLength_append, decide_eq_true_eq]
    omega
  have run : (digits ++ rest).takeWhile Char.isDigit = digits := by
    rw [List.takeWhile_append_of_pos allDigits, stops, List.append_nil]
  have notShort : ¬ digits.length < least := Nat.not_lt.mpr enough
  rw [number]
  simp only [bytes, run, Bool.not_true, Bool.false_eq_true, if_false, notShort, List.drop_left]

/-- A year of four digits has no sign. -/
theorem year_padded {value : Nat} (fits : value < 10000) (rest : List Char) :
    year ((Rfc3339.padded 4 value).toList ++ rest) = .ok ((value : Int), rest) := by
  have read : number 1 (some 4) ((Rfc3339.padded 4 value).toList ++ rest) = .ok (value, rest) :=
    number_spelled (padded_spells (by decide) fits) (by decide) (Nat.le_refl _) rest (by simp)
  obtain ⟨digit, digits, written, isDigit⟩ := padded_eq_cons (show 0 < 4 by decide) value
  rw [written, List.cons_append] at read ⊢
  rw [year.eq_def]
  split
  · next same =>
      obtain ⟨rfl, -⟩ := List.cons.inj same
      cases isDigit
  · next same =>
      obtain ⟨rfl, -⟩ := List.cons.inj same
      cases isDigit
  · rw [read]
    rfl

/-- A number does not begin with another character than a digit. -/
theorem number_notDigit {width : Nat} {character : Char} {rest : List Char}
    (notDigit : character.isDigit = false) (long : width + 1 ≤ (character :: rest).length) :
    number (width + 1) (some (width + 1)) (character :: rest) = .error .invalid := by
  have characters := length_le_byteLength (character :: rest)
  have bytes : hasBytes (width + 1) (character :: rest) = true := by
    rw [hasBytes, decide_eq_true_eq]
    omega
  simp [number, bytes, notDigit]

theorem literal_cons (character : Char) (rest : List Char) :
    literal character (character :: rest) = .ok rest := by
  rw [literal, if_pos rfl]

theorem inRange_ok {least most value : Int} (lower : least ≤ value) (upper : value ≤ most) :
    inRange least most value = .ok () := by
  rw [inRange, if_pos ⟨lower, upper⟩]

/-- A point and digits are read as a fraction of a second, in nanoseconds. -/
theorem optionalFraction_spelled {places value : Nat} {digits : List Char}
    (spells : Spells places value digits) (positive : 0 < places) (few : places ≤ 9)
    {rest : List Char} (stops : rest.takeWhile Char.isDigit = []) :
    optionalFraction ('.' :: (digits ++ rest)) = .ok (value * 10 ^ (9 - places), rest) := by
  have read : number 1 (some 9) (digits ++ rest) = .ok (value, rest) :=
    number_spelled spells positive few rest (by rw [stops, List.take_nil])
  have noDigit : rest.dropWhile Char.isDigit = rest := by
    have whole := List.takeWhile_append_dropWhile (p := Char.isDigit) (l := rest)
    rwa [stops, List.nil_append] at whole
  have count : (digits ++ rest).length - rest.length = places := by
    rw [List.length_append, spells.length, Nat.add_sub_cancel]
  rw [optionalFraction, fraction, read]
  simp only [bind, Except.bind, pure, Except.pure, count, noDigit]
  rfl

/-- A fraction that is not zero is written with as many places as it needs. -/
theorem fractionText_spelled {nanosecond : Nat} (positive : nanosecond ≠ 0)
    (small : nanosecond < 1000000000) :
    ∃ places value digits, (Rfc3339.fractionText nanosecond).toList = '.' :: digits ∧
      Spells places value digits ∧ 0 < places ∧ places ≤ 9 ∧
      value * 10 ^ (9 - places) = nanosecond := by
  have spelled {places value : Nat} (some : 0 < places) (few : places ≤ 9)
      (fits : value < 10 ^ places) (whole : value * 10 ^ (9 - places) = nanosecond) :
      ∃ otherPlaces otherValue digits,
        ("." ++ Rfc3339.padded places value).toList = '.' :: digits ∧
          Spells otherPlaces otherValue digits ∧ 0 < otherPlaces ∧ otherPlaces ≤ 9 ∧
          otherValue * 10 ^ (9 - otherPlaces) = nanosecond :=
    ⟨places, value, _, String.toList_append, padded_spells some fits, some, few, whole⟩
  rw [Rfc3339.fractionText, if_neg positive]
  split
  · exact spelled (by decide) (by decide) (show nanosecond / 1000000 < 10 ^ 3 by omega) (by omega)
  · split
    · exact spelled (by decide) (by decide) (show nanosecond / 1000 < 10 ^ 6 by omega) (by omega)
    · exact spelled (by decide) (by decide) (show nanosecond < 10 ^ 9 from small) (by omega)

/-- Without a point there is no fraction. -/
theorem optionalFraction_noPoint {rest : List Char} (noPoint : rest.head? ≠ some '.') :
    optionalFraction rest = .ok (0, rest) := by
  rw [optionalFraction.eq_def]
  split
  · exact absurd (List.head?_cons ..) noPoint
  · rfl

/-- A written fraction is read back. -/
theorem optionalFraction_fractionText {nanosecond : Nat} (small : nanosecond < 1000000000)
    {rest : List Char} (stops : rest.takeWhile Char.isDigit = [])
    (noPoint : rest.head? ≠ some '.') :
    optionalFraction ((Rfc3339.fractionText nanosecond).toList ++ rest) =
      .ok (nanosecond, rest) := by
  by_cases zero : nanosecond = 0
  · subst zero
    rw [Rfc3339.fractionText, if_pos rfl, String.toList_empty, List.nil_append,
      optionalFraction_noPoint noPoint]
  · obtain ⟨places, value, digits, written, spells, positive, few, whole⟩ :=
      fractionText_spelled zero small
    rw [written, List.cons_append, optionalFraction_spelled spells positive few stops, whole]

end Scan

end AssetSearch.Time

/-
This file shows that an integer is written without a superfluous zero, and that a natural number of
64 bits is read from its digits.
-/

import AssetSearch.Json.Number
import AssetSearch.Proofs.Number.Numeral

namespace AssetSearch.Json

open AssetSearch.Number

/-- The digits stand for a natural number and have no superfluous zero in front. -/
structure IsDecimal (digits : List Char) : Prop where
  nonempty : digits ≠ []
  allDigits : ∀ digit ∈ digits, digit.isDigit = true
  noZero : ∀ later, digits = '0' :: later → later = []

theorem isDigit_of_mem_decimal (value : Nat) :
    ∀ digit ∈ Nat.toDigits 10 value, digit.isDigit = true :=
  fun _ inside => Nat.isDigit_of_mem_toDigits (by decide) (by decide) inside

/-- A zero in front of other digits would make the number longer than it has to be. -/
theorem isDecimal_toDigits (value : Nat) : IsDecimal (Nat.toDigits 10 value) where
  nonempty := Nat.toDigits_ne_nil
  allDigits := isDigit_of_mem_decimal value
  noZero := by
    intro later zero
    have allDigits := isDigit_of_mem_decimal value
    have whole : ofDigits (Nat.toDigits 10 value) = value := Nat.ofDigitChars_ten_toDigits
    rw [zero] at allDigits whole
    rw [ofDigits_cons, show digitValue '0' = 0 from rfl, Nat.zero_mul, Nat.zero_add] at whole
    have short := ofDigits_lt (List.forall_mem_cons.mp allDigits).2
    rw [whole] at short
    by_contra some
    have length := (Nat.length_toDigits_le_iff (by decide) (List.length_pos_iff.mpr some)).mpr
      short
    rw [zero, List.length_cons] at length
    exact Nat.not_succ_le_self _ length

namespace IsDecimal

variable {digits : List Char}

theorem takeWhile_eq (decimal : IsDecimal digits) : digits.takeWhile Char.isDigit = digits :=
  List.takeWhile_eq_self_iff.mpr decimal.allDigits

theorem dropWhile_eq (decimal : IsDecimal digits) : digits.dropWhile Char.isDigit = [] :=
  List.dropWhile_eq_nil_iff.mpr decimal.allDigits

theorem exists_cons (decimal : IsDecimal digits) :
    ∃ first later, digits = first :: later ∧ first.isDigit = true := by
  obtain ⟨first, later, rfl⟩ := List.exists_cons_of_ne_nil decimal.nonempty
  exact ⟨first, later, rfl, decimal.allDigits first List.mem_cons_self⟩

/-- Digits alone have no fraction and no exponent. -/
theorem ofNumeral?_eq (decimal : IsDecimal digits) (small : ofDigits digits ≤ largestNatural) :
    JsonNumber.ofNumeral? digits = some (.integer (ofDigits digits)) := by
  have unsigned : splitSign digits = (false, digits) := by
    obtain ⟨first, later, rfl, isDigit⟩ := decimal.exists_cons
    rw [splitSign.eq_def]
    split
    · next same =>
        obtain ⟨rfl, -⟩ := List.cons.inj same
        cases isDigit
    · next same =>
        obtain ⟨rfl, -⟩ := List.cons.inj same
        cases isDigit
    · rfl
  have parts : NumeralParts.ofText digits = ⟨false, digits, none, none⟩ := by
    rw [NumeralParts.ofText, unsigned]
    simp only [decimal.dropWhile_eq, decimal.takeWhile_eq]
    rfl
  have fits : ¬ largestNatural < ofDigits digits := Nat.not_lt.mpr small
  rw [JsonNumber.ofNumeral?, parts]
  simp [NumeralParts.integer?, fits]

end IsDecimal

/-- An integer is written with its digits, after a minus if it is negative. -/
theorem integer_text (value : Int) :
    (JsonNumber.integer value).text.toList =
      if 0 ≤ value then Nat.toDigits 10 value.toNat else '-' :: Nat.toDigits 10 (-value).toNat := by
  rw [JsonNumber.text, Int.toString_eq_repr, Int.repr_eq_if]
  split
  · exact Nat.toList_repr
  · rw [String.toList_append, Nat.toList_repr]
    rfl

/-- A natural number of 64 bits is read from its digits. -/
theorem ofNumeral?_ofNat {value : Nat} (small : value ≤ largestNatural) :
    JsonNumber.ofNumeral? (JsonNumber.integer value).text.toList = some (.integer value) := by
  have whole : ofDigits (Nat.toDigits 10 value) = value := Nat.ofDigitChars_ten_toDigits
  rw [integer_text, if_pos (Int.natCast_nonneg value), Int.toNat_natCast,
    (isDecimal_toDigits value).ofNumeral?_eq (whole.symm ▸ small), whole]

end AssetSearch.Json

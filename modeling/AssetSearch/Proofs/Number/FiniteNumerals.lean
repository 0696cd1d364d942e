/-
This file shows that the numerals that count as finite are those whose exact value lies below the
point where rounding leaves the number format.
-/

import AssetSearch.Proofs.Number.Rounding
import AssetSearch.Proofs.Number.TypedNumerals
import Mathlib.Tactic.FieldSimp
import Mathlib.Tactic.Ring

namespace AssetSearch.Number

def Numeral.value (numeral : Numeral) : ℚ :=
  (if numeral.negative then -1 else 1) * (numeral.significand * 10 ^ numeral.scale)

theorem Numeral.abs_value (numeral : Numeral) :
    |numeral.value| = numeral.significand * 10 ^ numeral.scale := by
  have magnitude : (0 : ℚ) ≤ numeral.significand * 10 ^ numeral.scale := by positivity
  rw [Numeral.value]
  split
  · rw [neg_one_mul, abs_neg, abs_of_nonneg magnitude]
  · rw [one_mul, abs_of_nonneg magnitude]

theorem cast_pow_sub_pow {Scalar : Type} [Ring Scalar] {small large : Nat} (less : small ≤ large) :
    ((Nat.pow 2 large - Nat.pow 2 small : Nat) : Scalar) = 2 ^ large - 2 ^ small := by
  rw [Nat.pow_eq, Nat.pow_eq, Nat.cast_sub (Nat.pow_le_pow_right (by decide) less), Nat.cast_pow,
    Nat.cast_pow, Nat.cast_ofNat]

/-- The bound is kept as a natural number. -/
theorem cast_overflowBound : (overflowBound : ℚ) = 2 ^ 1024 - 2 ^ 970 := by
  simp only [overflowBound, cast_pow_sub_pow, Nat.reduceLeDiff]

theorem cast_overflowBound_pos : (0 : ℚ) < overflowBound := by
  rw [cast_overflowBound, sub_pos]
  exact pow_lt_pow_right₀ (by norm_num) (by norm_num)

/-- The comparison in natural numbers compares the exact value. -/
theorem Numeral.isFinite_iff (numeral : Numeral) :
    numeral.isFinite = true ↔ |numeral.value| < 2 ^ 1024 - 2 ^ 970 := by
  rw [numeral.abs_value, ← cast_overflowBound, Numeral.isFinite]
  split
  · next zero =>
      rw [zero, Nat.cast_zero, zero_mul]
      exact iff_of_true rfl cast_overflowBound_pos
  · split
    · next natural =>
        obtain ⟨scale, same⟩ := Int.eq_ofNat_of_zero_le natural
        rw [decide_eq_true_eq, same, Int.toNat_natCast, zpow_natCast]
        exact_mod_cast Iff.rfl
    · next negative =>
        obtain ⟨places, same⟩ := Int.eq_ofNat_of_zero_le (by omega : 0 ≤ -numeral.scale)
        have scale : numeral.scale = -(places : Int) := by omega
        rw [decide_eq_true_eq, scale, neg_neg, Int.toNat_natCast, zpow_neg, zpow_natCast,
          ← div_eq_mul_inv, div_lt_iff₀ (by positivity)]
        exact_mod_cast Iff.rfl

section

variable {digits : List Char}

theorem le_foldl {step : Nat → Char → Nat} (grows : ∀ value digit, value ≤ step value digit)
    (start : Nat) : start ≤ digits.foldl step start := by
  induction digits generalizing start with
  | nil => exact Nat.le_refl start
  | cons digit later inductionHypothesis =>
      exact Nat.le_trans (grows start digit) (inductionHypothesis _)

/-- Digits of an exponent are left out only above the bound. -/
theorem ofExponentDigits_eq_or (digits : List Char) :
    ofExponentDigits digits = ofDigits digits ∨
      exponentBound ≤ ofExponentDigits digits ∧ exponentBound ≤ ofDigits digits := by
  rw [ofExponentDigits, ofDigits]
  generalize 0 = start
  induction digits generalizing start with
  | nil => exact Or.inl rfl
  | cons digit later inductionHypothesis =>
      rw [List.foldl_cons, List.foldl_cons]
      split
      · exact inductionHypothesis _
      · next large =>
          refine Or.inr ⟨?_, ?_⟩
          · refine Nat.le_trans (Nat.le_of_not_lt large) (le_foldl (fun value digit => ?_) start)
            split <;> omega
          · have grown : exponentBound ≤ 10 * start + digitValue digit := by omega
            exact Nat.le_trans grown (le_foldl (fun value digit => by omega) _)

theorem ofDigits_append (first second : List Char) :
    ofDigits (first ++ second) = ofDigits first * 10 ^ second.length + ofDigits second := by
  rw [ofDigits_eq_ofDigitChars, Nat.ofDigitChars_append, Nat.ofDigitChars_eq_ofDigitChars_zero,
    Nat.mul_comm]
  rfl

end

/-- A numeral without an exponent has the exponent zero. -/
def exponentSize : Option ExponentPart → Nat
  | none => 0
  | some part => ofDigits part.digits

def exponentValue : Option ExponentPart → Int
  | none => 0
  | some part => part.sign.factor * ofDigits part.digits

theorem exponentReading_eq {part? : Option ExponentPart}
    (small : exponentSize part? < exponentBound) : exponentReading part? = exponentValue part? := by
  cases part? with
  | none => rfl
  | some part =>
      rcases ofExponentDigits_eq_or part.digits with same | ⟨-, large⟩
      · rw [exponentReading, same, exponentValue]
      · exact absurd small (Nat.not_lt.mpr large)

namespace TypedNumeral

/-- This is the exact value of a numeral. -/
def value (numeral : TypedNumeral) : ℚ :=
  numeral.sign.factor *
    (ofDigits numeral.whole + ofDigits numeral.places / 10 ^ numeral.places.length) *
    10 ^ exponentValue numeral.exponent?

theorem reading_value {numeral : TypedNumeral}
    (small : exponentSize numeral.exponent? < exponentBound) :
    numeral.reading.value = numeral.value := by
  have factor : (if numeral.sign.isNegative = true then -1 else 1 : ℚ) = numeral.sign.factor := by
    cases numeral.sign <;> simp [Sign.isNegative, Sign.factor]
  rw [Numeral.value, reading, factor, exponentReading_eq small, ofDigits_append, value,
    zpow_sub₀ (by norm_num), zpow_natCast]
  push_cast
  field_simp

theorem places_length_le (numeral : TypedNumeral) :
    numeral.places.length ≤ numeral.text.length := by
  have fraction : numeral.places.length ≤ (fractionText numeral.fraction?).length := by
    rw [places]
    cases numeral.fraction? with
    | none => exact Nat.le_refl 0
    | some digits => exact Nat.le_succ _
  rw [text, tail]
  simp only [List.length_append]
  omega

/-- A numeral that is read with a small scale has a small exponent. -/
theorem exponentSize_lt {typed : TypedNumeral} {numeral : Numeral}
    (read : Numeral.ofText? typed.text = some numeral)
    (near : numeral.scale.natAbs + typed.text.length < exponentBound) :
    exponentSize typed.exponent? < exponentBound := by
  obtain rfl := Option.some.inj
    ((Numeral.ofText?_eq_some_iff.mpr ⟨typed, rfl, rfl⟩).symm.trans read)
  have short := typed.places_length_le
  change (exponentReading typed.exponent? - typed.places.length).natAbs + typed.text.length <
    exponentBound at near
  cases given : typed.exponent? with
  | none => decide
  | some part =>
      have size : (exponentReading (some part)).natAbs = ofExponentDigits part.digits := by
        rw [exponentReading, Int.natAbs_mul, Int.natAbs_natCast]
        cases part.sign <;> exact Nat.one_mul _
      rw [given] at near
      rcases ofExponentDigits_eq_or part.digits with same | ⟨large, -⟩
      · rw [exponentSize, ← same]
        omega
      · omega

end TypedNumeral

/-- A text is a finite numeral if it is typed as one and its exact value is small enough. -/
theorem isFiniteNumeral_iff {characters : List Char}
    (small : ∀ typed : TypedNumeral, typed.text = characters →
      exponentSize typed.exponent? < exponentBound) :
    isFiniteNumeral characters = true ↔
      ∃ typed : TypedNumeral, typed.text = characters ∧ |typed.value| < 2 ^ 1024 - 2 ^ 970 := by
  constructor
  · intro finite
    cases read : Numeral.ofText? characters with
    | none => simp [isFiniteNumeral, read] at finite
    | some numeral =>
        obtain ⟨typed, spelled, rfl⟩ := Numeral.ofText?_eq_some_iff.mp read
        rw [isFiniteNumeral, read] at finite
        rw [Numeral.isFinite_iff, TypedNumeral.reading_value (small typed spelled)] at finite
        exact ⟨typed, spelled, finite⟩
  · rintro ⟨typed, spelled, finite⟩
    have read := Numeral.ofText?_eq_some_iff.mpr ⟨typed, spelled, rfl⟩
    rw [← TypedNumeral.reading_value (small typed spelled), ← Numeral.isFinite_iff] at finite
    rw [isFiniteNumeral, read]
    exact finite

/-- Integers below the bound are finite. -/
theorem isFiniteNumeral_integer {value : Int} (small : value.natAbs < overflowBound) :
    isFiniteNumeral (toString value).toList = true := by
  have whole : (TypedNumeral.ofInteger value).reading.significand = value.natAbs := by
    change ofDigits (Nat.toDigits 10 value.natAbs ++ []) = value.natAbs
    rw [List.append_nil]
    exact Nat.ofDigitChars_ten_toDigits
  have read := Numeral.ofText?_eq_some_iff.mpr ⟨_, TypedNumeral.ofInteger_text value, rfl⟩
  have natural : 0 ≤ (TypedNumeral.ofInteger value).reading.scale := Int.le_refl 0
  have one : Nat.pow 10 (TypedNumeral.ofInteger value).reading.scale.toNat = 1 := rfl
  rw [isFiniteNumeral, read]
  simp only [Numeral.isFinite, if_pos natural, whole, one, Nat.mul_one, small, decide_true,
    ite_self]

end AssetSearch.Number

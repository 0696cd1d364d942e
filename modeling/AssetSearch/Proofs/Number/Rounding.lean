/-
This file shows how far rounding to 53 binary digits moves a number, and from which number on it
leads out of the format.
-/

import AssetSearch.Number.Binary64
import Mathlib.Algebra.Order.Field.Power
import Mathlib.Data.Rat.Floor
import Mathlib.Tactic.Linarith
import Mathlib.Tactic.NormNum

namespace AssetSearch.Number

theorem twoTo_eq (exponent : Int) : twoTo exponent = (2 : ℚ) ^ exponent := by
  rw [twoTo]
  split
  · next natural => rw [← zpow_natCast, Int.toNat_of_nonneg natural]
  · next negative =>
      rw [one_div, ← zpow_natCast, ← zpow_neg, Int.toNat_of_nonneg (by omega), neg_neg]

theorem twoTo_natCast (exponent : Nat) : twoTo exponent = (2 : ℚ) ^ exponent := by
  rw [twoTo_eq, zpow_natCast]

theorem twoTo_pos (exponent : Int) : 0 < twoTo exponent := by
  rw [twoTo_eq]
  exact zpow_pos (by norm_num) exponent

theorem twoTo_add (first second : Int) : twoTo (first + second) = twoTo first * twoTo second := by
  rw [twoTo_eq, twoTo_eq, twoTo_eq, zpow_add₀ (by norm_num)]

theorem twoTo_le {first second : Int} (least : first ≤ second) : twoTo first ≤ twoTo second := by
  rw [twoTo_eq, twoTo_eq]
  exact zpow_le_zpow_right₀ (by norm_num) least

section

variable (value : Rat)

theorem floor_le_roundHalfEven : ⌊value⌋ ≤ roundHalfEven value := by
  rw [roundHalfEven]
  change value.floor ≤ _
  split_ifs <;> omega

theorem roundHalfEven_le_floor : roundHalfEven value ≤ ⌊value⌋ + 1 := by
  rw [roundHalfEven]
  change _ ≤ value.floor + 1
  split_ifs <;> omega

/-- Rounding adds at most one half. -/
theorem roundHalfEven_le : (roundHalfEven value : ℚ) ≤ value + 1 / 2 := by
  have below : (value.floor : ℚ) ≤ value := Int.floor_le value
  rw [roundHalfEven]
  split_ifs
  · linarith
  · push_cast
    linarith
  · linarith
  · push_cast
    linarith

variable {value}

/-- An even number is the rounded one already at one half below it. -/
theorem le_roundHalfEven_iff {number : Int} (even : number % 2 = 0) :
    number ≤ roundHalfEven value ↔ (number : ℚ) - 1 / 2 ≤ value := by
  have below : (value.floor : ℚ) ≤ value := Int.floor_le value
  have above : value < value.floor + 1 := Int.lt_floor_add_one value
  have upper := roundHalfEven_le_floor value
  have lower := floor_le_roundHalfEven value
  change _ ≤ value.floor + 1 at upper
  change value.floor ≤ _ at lower
  rcases lt_trichotomy number (value.floor + 1) with small | same | large
  · have cast : (number : ℚ) ≤ value.floor := by exact_mod_cast Int.lt_add_one_iff.mp small
    exact iff_of_true (by omega) (by linarith)
  · subst same
    have cast : ((value.floor + 1 : Int) : ℚ) = value.floor + 1 := by push_cast; rfl
    rw [roundHalfEven, cast]
    split_ifs
    · exact iff_of_false (by omega) (by linarith)
    · exact iff_of_true (by omega) (by linarith)
    · omega
    · exact iff_of_true (by omega) (by linarith)
  · have cast : (value.floor : ℚ) + 1 + 1 ≤ number := by exact_mod_cast Int.add_one_le_iff.mpr large
    exact iff_of_false (by omega) (by linarith)

end

theorem log2_spec {number : Nat} (positive : 0 < number) :
    twoTo number.log2 ≤ number ∧ (number : ℚ) < twoTo (number.log2 + 1) := by
  have above : twoTo (number.log2 + 1) = (2 : ℚ) ^ (number.log2 + 1) :=
    twoTo_natCast (number.log2 + 1)
  rw [twoTo_natCast, above]
  constructor
  · exact_mod_cast Nat.log2_self_le (Nat.ne_of_gt positive)
  · exact_mod_cast Nat.lt_log2_self

/-- A positive number lies between the power of two with its exponent and the next one. -/
theorem binaryExponent_spec {value : Rat} (positive : 0 < value) :
    twoTo (binaryExponent value) ≤ value ∧ value < twoTo (binaryExponent value + 1) := by
  have numerator : 0 < value.num.toNat := by
    have := Rat.num_pos.mpr positive
    omega
  have denominator : (0 : ℚ) < value.den := by exact_mod_cast value.den_pos
  have quotient : (value.num.toNat : ℚ) = value * value.den := by
    rw [Rat.mul_den_eq_num]
    exact_mod_cast Int.toNat_of_nonneg (Rat.num_nonneg.mpr positive.le)
  obtain ⟨leastNumerator, mostNumerator⟩ := log2_spec numerator
  obtain ⟨leastDenominator, mostDenominator⟩ := log2_spec value.den_pos
  rw [quotient] at leastNumerator mostNumerator
  rw [binaryExponent]
  generalize (value.num.toNat.log2 : Int) = top at *
  generalize (value.den.log2 : Int) = bottom at *
  have lower : twoTo (top - bottom - 1) ≤ value := by
    refine le_of_mul_le_mul_right ?_ denominator
    calc twoTo (top - bottom - 1) * value.den
        ≤ twoTo (top - bottom - 1) * twoTo (bottom + 1) :=
          mul_le_mul_of_nonneg_left mostDenominator.le (twoTo_pos _).le
      _ = twoTo top := by
          rw [← twoTo_add]
          congr 1
          omega
      _ ≤ value * value.den := leastNumerator
  have upper : value < twoTo (top - bottom + 1) := by
    refine lt_of_mul_lt_mul_right ?_ denominator.le
    calc value * value.den < twoTo (top + 1) := mostNumerator
      _ = twoTo (top - bottom + 1) * twoTo bottom := by
          rw [← twoTo_add]
          congr 1
          omega
      _ ≤ twoTo (top - bottom + 1) * value.den :=
          mul_le_mul_of_nonneg_left leastDenominator (twoTo_pos _).le
  split
  · next less => exact ⟨lower, by rwa [Int.sub_add_cancel]⟩
  · next notLess => exact ⟨not_lt.mp notLess, upper⟩

namespace Binary64

section

variable {value : Rat} (positive : 0 < value)

include positive

theorem round_eq : round value =
    roundHalfEven (value / twoTo (unitExponent value)) * twoTo (unitExponent value) :=
  if_neg (not_le.mpr positive)

/-- Rounding adds at most half of what the last digit counts. -/
theorem round_le : round value ≤ value + twoTo (unitExponent value) / 2 := by
  have unit := twoTo_pos (unitExponent value)
  rw [round_eq positive]
  calc roundHalfEven (value / twoTo (unitExponent value)) * twoTo (unitExponent value)
      ≤ (value / twoTo (unitExponent value) + 1 / 2) * twoTo (unitExponent value) :=
        mul_le_mul_of_nonneg_right (roundHalfEven_le _) unit.le
    _ = value + twoTo (unitExponent value) / 2 := by
        rw [add_mul, div_mul_cancel₀ value unit.ne', one_div_mul_eq_div]

/-- Rounding does not lead below a power of two. -/
theorem twoTo_le_round (normal : -1022 ≤ binaryExponent value) :
    twoTo (binaryExponent value) ≤ round value := by
  have exponent : unitExponent value = binaryExponent value - 52 := max_eq_left (by omega)
  have whole : twoTo (binaryExponent value) = (2 ^ 52 : Int) * twoTo (unitExponent value) := by
    have mantissa : ((2 ^ 52 : Int) : ℚ) = twoTo 52 := by
      rw [twoTo_eq]
      norm_num
    rw [mantissa, ← twoTo_add, exponent]
    congr 1
    omega
  rw [round_eq positive, whole]
  refine mul_le_mul_of_nonneg_right ?_ (twoTo_pos _).le
  have inside : ((2 ^ 52 : Int) : ℚ) ≤ value / twoTo (unitExponent value) := by
    rw [le_div_iff₀ (twoTo_pos _), ← whole]
    exact (binaryExponent_spec positive).1
  exact_mod_cast le_trans (Int.le_floor.mpr inside) (floor_le_roundHalfEven _)

end

/-- From this number on the nearest number with 53 digits does not exist in the format. -/
theorem round_lt_limit_iff (value : Rat) :
    round value < limit ↔ value < 2 ^ 1024 - 2 ^ 970 := by
  rw [limit, show (2 : ℚ) ^ 1024 = twoTo 1024 from (twoTo_natCast 1024).symm,
    show (2 : ℚ) ^ 970 = twoTo 970 from (twoTo_natCast 970).symm]
  have doubled : twoTo 1024 = 2 * twoTo 1023 := twoTo_add 1 1023
  have small : twoTo 970 ≤ twoTo 1023 := twoTo_le (by decide)
  have halfPositive := twoTo_pos 970
  rcases lt_or_ge 0 value with positive | notPositive
  · obtain ⟨least, most⟩ := binaryExponent_spec positive
    -- Only between the last power of two and the next one does half a digit decide.
    rcases lt_trichotomy (binaryExponent value) 1023 with low | same | high
    · have unit : twoTo (unitExponent value) ≤ twoTo 970 :=
        twoTo_le (max_le (by omega) (by decide))
      have bound : twoTo (binaryExponent value + 1) ≤ twoTo 1023 := twoTo_le (by omega)
      have rounded := round_le positive
      exact iff_of_true (by linarith) (by linarith)
    · have exponent : unitExponent value = 971 := by rw [unitExponent, same]; rfl
      have unit : twoTo 971 = 2 * twoTo 970 := twoTo_add 1 970
      have whole : twoTo 1024 = (2 ^ 53 : Int) * twoTo 971 := twoTo_add 53 971
      rw [← not_le, ← not_le, not_iff_not, round_eq positive, exponent, whole,
        mul_le_mul_iff_left₀ (twoTo_pos 971), Int.cast_le, le_roundHalfEven_iff (by decide),
        le_div_iff₀ (twoTo_pos 971), sub_mul, unit, one_div, inv_mul_cancel_left₀ two_ne_zero]
    · have bound : twoTo 1024 ≤ twoTo (binaryExponent value) := twoTo_le (by omega)
      have rounded := twoTo_le_round positive (by omega)
      exact iff_of_false (by linarith) (by linarith)
  · have zero : round value = 0 := if_pos notPositive
    rw [zero]
    exact iff_of_true (twoTo_pos 1024) (by linarith)

end Binary64

end AssetSearch.Number

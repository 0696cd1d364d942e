/-
This file shows which values of keyword pairs are numbers, and that the number, the time and the
text that a value may be exclude each other.
-/

import AssetSearch.Proofs.Number.FiniteNumerals
import AssetSearch.Proofs.Time.NoNumerals
import AssetSearch.Query.Condition

namespace AssetSearch.Query

open AssetSearch.Number
open AssetSearch.Time.FilterDate (milliseconds?)

/-- The text is typed as a numeral whose exact value is below the point where rounding leaves the
number format. -/
def IsFiniteNumber (text : String) : Prop :=
  ∃ typed : TypedNumeral, typed.text = text.toList ∧ |typed.value| < 2 ^ 1024 - 2 ^ 970

/-- The exponents that are typed in the text are read to their last digit. -/
def HasSmallExponents (text : String) : Prop :=
  ∀ typed : TypedNumeral, typed.text = text.toList → exponentSize typed.exponent? < 65536

theorem IsFiniteNumber.noTime {text : String} (finite : IsFiniteNumber text) :
    milliseconds? text.toList = none := by
  obtain ⟨typed, spelled, -⟩ := finite
  rw [← spelled]
  exact Time.milliseconds?_typedNumeral typed

/-- These are the kinds of values that a text may have. -/
inductive IsValueOf (text : String) : FilterValue → Prop
  | number (finite : IsFiniteNumber text) (noTime : milliseconds? text.toList = none) :
      IsValueOf text (.number text)
  | timestamp {milliseconds : Int} (notFinite : ¬ IsFiniteNumber text)
      (time : milliseconds? text.toList = some milliseconds) :
      IsValueOf text (.timestamp milliseconds)
  | text (notFinite : ¬ IsFiniteNumber text) (noTime : milliseconds? text.toList = none) :
      IsValueOf text (.text text)

theorem ofText_isValueOf {text : String} (small : HasSmallExponents text) :
    IsValueOf text (FilterValue.ofText text.toList) := by
  rw [FilterValue.ofText, String.ofList_toList]
  split
  · next finite =>
      have isNumber : IsFiniteNumber text := (isFiniteNumeral_iff small).mp finite
      exact .number isNumber isNumber.noTime
  · next notFinite =>
      have noNumber : ¬ IsFiniteNumber text := mt (isFiniteNumeral_iff small).mpr notFinite
      split
      · next time => exact .timestamp noNumber time
      · next noTime => exact .text noNumber noTime

/-- A value is a number exactly if it is typed as one and can be rounded into the format. As no
numeral is a time, it does not matter that numbers are looked for first, and any other value is
a text. -/
theorem ofText_recognizesNumbers {text : String} (small : HasSmallExponents text) :
    (∀ numeral, FilterValue.ofText text.toList = .number numeral ↔
      numeral = text ∧ IsFiniteNumber text) ∧
      (∀ milliseconds, FilterValue.ofText text.toList = .timestamp milliseconds ↔
        milliseconds? text.toList = some milliseconds) ∧
      (∀ content, FilterValue.ofText text.toList = .text content ↔
        content = text ∧ ¬ IsFiniteNumber text ∧ milliseconds? text.toList = none) ∧
      ∀ typed : TypedNumeral, typed.text = text.toList →
        milliseconds? text.toList = none ∧
          (|typed.value| < 2 ^ 1024 - 2 ^ 970 ↔
            Binary64.round |typed.value| < Binary64.limit) := by
  have value := ofText_isValueOf small
  generalize FilterValue.ofText text.toList = found at *
  have rounding : ∀ typed : TypedNumeral, typed.text = text.toList →
      milliseconds? text.toList = none ∧
        (|typed.value| < 2 ^ 1024 - 2 ^ 970 ↔
          Binary64.round |typed.value| < Binary64.limit) := by
    intro typed spelled
    rw [← spelled]
    exact ⟨Time.milliseconds?_typedNumeral typed,
      (Binary64.round_lt_limit_iff |typed.value|).symm⟩
  refine ⟨?_, ?_, ?_, rounding⟩
  · intro numeral
    cases value with
    | number finite _ => simp [finite, @eq_comm String text]
    | timestamp notFinite _ => simp [notFinite]
    | text notFinite _ => simp [notFinite]
  · intro milliseconds
    cases value with
    | number _ noTime => simp [noTime]
    | timestamp _ time => simp [time]
    | text _ noTime => simp [noTime]
  · intro content
    cases value with
    | number finite _ => simp [finite]
    | timestamp _ time => simp [time]
    | text notFinite noTime => simp [notFinite, noTime, @eq_comm String text]

theorem HasSmallExponents.ofRead {text : String} {numeral : Numeral}
    (read : Numeral.ofText? text.toList = some numeral)
    (near : numeral.scale.natAbs + text.toList.length < 65536) : HasSmallExponents text := by
  intro typed spelled
  rw [← spelled] at read near
  exact TypedNumeral.exponentSize_lt read near

/-- One more in the last of its twenty digits makes this number too large. -/
theorem ofText_recognizesNumbers_largest :
    HasSmallExponents "+.17976931348623158079e309" ∧
      FilterValue.ofText "+.17976931348623158079e309".toList =
        .number "+.17976931348623158079e309" ∧
      HasSmallExponents "+.17976931348623158080e309" ∧
      FilterValue.ofText "+.17976931348623158080e309".toList =
        .text "+.17976931348623158080e309" := by
  have below : HasSmallExponents "+.17976931348623158079e309" := .ofRead rfl (by decide +kernel)
  have above : HasSmallExponents "+.17976931348623158080e309" := .ofRead rfl (by decide +kernel)
  have finite : IsFiniteNumber "+.17976931348623158079e309" :=
    (isFiniteNumeral_iff below).mp (by decide +kernel)
  have notFinite : ¬ IsFiniteNumber "+.17976931348623158080e309" :=
    mt (isFiniteNumeral_iff above).mpr (by decide +kernel)
  have noTime : milliseconds? "+.17976931348623158080e309".toList = none := by decide +kernel
  exact ⟨below, ((ofText_recognizesNumbers below).1 _).mpr ⟨rfl, finite⟩,
    above, ((ofText_recognizesNumbers above).2.2.1 _).mpr ⟨rfl, notFinite, noTime⟩⟩

end AssetSearch.Query

/-
This file shows what becomes of a length of time that is turned into binary seconds and back. A
length of at most `2 ^ 23` seconds comes back as it was, and a longer one may come back longer.
-/

import AssetSearch.Network.Backoff
import AssetSearch.Proofs.Number.RepresentableNumbers

namespace AssetSearch.Network

open AssetSearch.Number
open AssetSearch.Number.Binary64 (IsRepresentable unitExponent)
open AssetSearch.Time

/-- These are the seconds of a length of time before they are rounded. -/
def exactSeconds (duration : Duration) : Rat := duration.nanoseconds / 1000000000

def wholeSeconds (duration : Duration) : Nat := duration.nanoseconds / 1000000000

/-- This fraction of a second stands beside the whole seconds. -/
def exactFraction (duration : Duration) : Rat :=
  (duration.nanoseconds % 1000000000 : Nat) / 1000000000

section

variable (duration : Duration)

theorem secondsOf_eq :
    secondsOf duration = Binary64.round (Binary64.round (wholeSeconds duration) +
      Binary64.round (exactFraction duration)) :=
  rfl

theorem exactSeconds_eq :
    exactSeconds duration = wholeSeconds duration + exactFraction duration := by
  have parts : wholeSeconds duration * 1000000000 + duration.nanoseconds % 1000000000 =
      duration.nanoseconds := Nat.div_add_mod' _ _
  rw [exactSeconds, exactFraction, ← parts, Nat.cast_add, add_div, Nat.cast_mul, Nat.cast_ofNat,
    mul_div_cancel_right₀ _ (by norm_num), parts]

theorem exactFraction_nonneg : 0 ≤ exactFraction duration :=
  div_nonneg (Nat.cast_nonneg _) (by norm_num)

theorem exactFraction_le : exactFraction duration ≤ 999999999 / 1000000000 := by
  have rest : duration.nanoseconds % 1000000000 ≤ 999999999 := by omega
  exact div_le_div_of_nonneg_right (by exact_mod_cast rest) (by norm_num)

theorem wholeSeconds_le : (wholeSeconds duration : ℚ) ≤ exactSeconds duration := by
  rw [exactSeconds_eq]
  exact le_add_of_nonneg_right (exactFraction_nonneg duration)

theorem isRepresentable_secondsOf : IsRepresentable (secondsOf duration) :=
  Binary64.isRepresentable_round _

/-- The fraction is not rounded up to a whole second. -/
theorem round_exactFraction_lt : Binary64.round (exactFraction duration) < 1 := by
  have bound : IsRepresentable (1 - twoTo (-30)) :=
    ⟨2 ^ 30 - 1, -30, by norm_num, by norm_num, by norm_num, by decide +kernel⟩
  have below : exactFraction duration ≤ 1 - twoTo (-30) :=
    (exactFraction_le duration).trans (by decide +kernel)
  have unit := twoTo_pos (-30)
  linarith [Binary64.round_le_of_le bound below]

end

/-- Seconds are not rounded above a number of the format that was not below them. -/
theorem secondsOf_le {duration : Duration} {bound : Rat} (representable : IsRepresentable bound)
    (least : exactSeconds duration ≤ bound) : secondsOf duration ≤ bound := by
  have whole : (wholeSeconds duration : ℚ) ≤ bound := (wholeSeconds_le duration).trans least
  rw [secondsOf_eq]
  rcases le_or_gt (unitExponent bound) 0 with fine | coarse
  · -- The whole seconds are exact here, and the rest of the bound is not below the fraction.
    have few : wholeSeconds duration ≤ 2 ^ 53 := by
      exact_mod_cast whole.trans (representable.le_of_fine fine)
    have rest := representable.sub_natCast fine whole
    have fraction : Binary64.round (exactFraction duration) ≤ bound - wholeSeconds duration := by
      apply Binary64.round_le_of_le rest
      rw [exactSeconds_eq] at least
      linarith
    rw [(Binary64.isRepresentable_natCast few).round_eq_self]
    exact Binary64.round_le_of_le representable (by linarith)
  · -- The fraction is less than half a unit here.
    have positive : 0 < bound := by
      refine lt_of_le_of_ne representable.nonneg fun zero => ?_
      rw [← zero] at coarse
      exact absurd coarse (by decide)
    have half : 1 ≤ twoTo (unitExponent bound) / 2 := by
      have two : twoTo 1 ≤ twoTo (unitExponent bound) := twoTo_le coarse
      rw [show twoTo 1 = 2 from rfl] at two
      linarith
    have rounded := Binary64.round_le_of_le representable whole
    have fraction := round_exactFraction_lt duration
    exact Binary64.round_le_of_lt_half representable positive (by linarith)

/-- From this number on, whole seconds are rounded to a number that no length of time has. -/
def roundedLimit : Nat := Nat.pow 2 64 - Nat.pow 2 10

/-- Seconds of a length of time are too many when they are rounded up to the limit. -/
theorem secondsOf_lt_limit_iff {duration : Duration} :
    secondsOf duration < secondsLimit ↔ duration.nanoseconds < roundedLimit * 1000000000 := by
  rw [secondsOf_eq]
  constructor
  · contrapose!
    intro large
    have whole : roundedLimit ≤ wholeSeconds duration :=
      (Nat.le_div_iff_mul_le (by decide)).mpr large
    have rounded : secondsLimit ≤ Binary64.round (wholeSeconds duration) :=
      calc secondsLimit = Binary64.round roundedLimit := by decide +kernel
        _ ≤ Binary64.round (wholeSeconds duration) :=
          Binary64.round_mono (by exact_mod_cast whole)
    have fraction := Binary64.round_nonneg (exactFraction duration)
    exact Binary64.le_round_of_le (Binary64.isRepresentable_twoTo (by norm_num)) (by linarith)
  · intro small
    have whole : wholeSeconds duration ≤ roundedLimit - 1 :=
      Nat.le_sub_one_of_lt ((Nat.div_lt_iff_lt_mul (by decide)).mpr small)
    have rounded : Binary64.round (wholeSeconds duration) ≤ 2 ^ 64 - 2 ^ 11 :=
      calc Binary64.round (wholeSeconds duration) ≤ Binary64.round (roundedLimit - 1 : Nat) :=
            Binary64.round_mono (by exact_mod_cast whole)
        _ = 2 ^ 64 - 2 ^ 11 := by decide +kernel
    have fraction := round_exactFraction_lt duration
    calc Binary64.round (Binary64.round (wholeSeconds duration) +
            Binary64.round (exactFraction duration))
        ≤ Binary64.round (2 ^ 64 - 2 ^ 11 + 1) := Binary64.round_mono (by linarith)
      _ < secondsLimit := by decide +kernel

def nearestNanoseconds (seconds : Rat) : Nat :=
  (roundHalfEven (seconds * 1000000000)).toNat

theorem nearestNanoseconds_mono {small large : Rat} (least : small ≤ large) :
    nearestNanoseconds small ≤ nearestNanoseconds large :=
  Int.toNat_le_toNat (roundHalfEven_mono (mul_le_mul_of_nonneg_right least (by norm_num)))

theorem nearestNanoseconds_le {seconds : Rat} {duration : Duration}
    (least : seconds ≤ exactSeconds duration) :
    nearestNanoseconds seconds ≤ duration.nanoseconds := by
  rw [nearestNanoseconds, Int.toNat_le]
  apply roundHalfEven_le_of_le
  rw [exactSeconds, le_div_iff₀ (by norm_num)] at least
  exact_mod_cast least

/-- Seconds that are fewer than the rounded ones of a length of time are not longer than it. -/
theorem nearestNanoseconds_le_of_lt {seconds : Rat} {duration : Duration}
    (representable : IsRepresentable seconds) (less : seconds < secondsOf duration) :
    nearestNanoseconds seconds ≤ duration.nanoseconds := by
  apply nearestNanoseconds_le
  by_contra above
  exact absurd less (not_lt.mpr (secondsOf_le representable (not_le.mp above).le))

theorem durationOf?_eq_some_iff {seconds : Rat} {duration : Duration} :
    durationOf? seconds = some duration ↔
      (seconds < secondsLimit ∧ nearestNanoseconds seconds < Nat.pow 2 64 * 1000000000) ∧
        ⟨nearestNanoseconds seconds⟩ = duration := by
  simp only [durationOf?, Bool.and_eq_true, decide_eq_true_eq, Option.ite_none_right_eq_some,
    Option.some.injEq]
  rfl

theorem durationOf?_mono {small large : Rat} (least : small ≤ large) {long : Duration}
    (found : durationOf? large = some long) :
    ∃ short, durationOf? small = some short ∧ short.nanoseconds ≤ long.nanoseconds := by
  obtain ⟨⟨belowLimit, fits⟩, rfl⟩ := durationOf?_eq_some_iff.mp found
  have nearest := nearestNanoseconds_mono least
  exact ⟨⟨nearestNanoseconds small⟩, durationOf?_eq_some_iff.mpr
    ⟨⟨least.trans_lt belowLimit, nearest.trans_lt fits⟩, rfl⟩, nearest⟩

/-- The last number of the format below the limit is far enough from it. -/
theorem nearestNanoseconds_lt {seconds : Rat} (representable : IsRepresentable seconds)
    (below : seconds < secondsLimit) :
    nearestNanoseconds seconds < Nat.pow 2 64 * 1000000000 := by
  by_contra notBelow
  have last : exactSeconds (.ofSeconds (Nat.pow 2 64 - 1)) < seconds := by
    by_contra notLast
    have nearest := nearestNanoseconds_le (not_lt.mp notLast)
    exact notBelow (Nat.lt_of_le_of_lt nearest (by decide))
  have reaches : secondsLimit ≤ seconds :=
    calc secondsLimit = Binary64.round (exactSeconds (.ofSeconds (Nat.pow 2 64 - 1))) := by
          decide +kernel
      _ ≤ Binary64.round seconds := Binary64.round_mono last.le
      _ = seconds := representable.round_eq_self
  exact absurd below (not_lt.mpr reaches)

theorem durationOf?_eq_none_iff {seconds : Rat} (representable : IsRepresentable seconds) :
    durationOf? seconds = none ↔ secondsLimit ≤ seconds := by
  constructor
  · contrapose!
    intro below
    have found : durationOf? seconds = some ⟨nearestNanoseconds seconds⟩ :=
      durationOf?_eq_some_iff.mpr ⟨⟨below, nearestNanoseconds_lt representable below⟩, rfl⟩
    rw [found]
    exact Option.some_ne_none _
  · intro reached
    rw [Option.eq_none_iff_forall_ne_some]
    intro duration found
    exact absurd (durationOf?_eq_some_iff.mp found).1.1 (not_lt.mpr reached)

/-- Below this number of seconds a unit of the last digit is less than a nanosecond. -/
def exactLimit : Nat := Nat.pow 2 23

/-- Both roundings together move the seconds by less than half a nanosecond. -/
theorem secondsOf_error {duration : Duration}
    (small : duration.nanoseconds < exactLimit * 1000000000) :
    |secondsOf duration - exactSeconds duration| < 1 / 2000000000 := by
  have whole : wholeSeconds duration + 1 ≤ exactLimit :=
    (Nat.div_lt_iff_lt_mul (by decide)).mpr small
  have wholeExact : Binary64.round (wholeSeconds duration) = wholeSeconds duration :=
    (Binary64.isRepresentable_natCast
      (Nat.le_trans (Nat.le_of_succ_le whole) (by decide))).round_eq_self
  have limit : (wholeSeconds duration : ℚ) + 1 ≤ twoTo 23 := by
    rw [show twoTo 23 = 2 ^ 23 from twoTo_natCast 23]
    exact_mod_cast whole
  have fractionMoved := Binary64.round_error (exactFraction_nonneg duration)
    ((exactFraction_le duration).trans_lt (by decide +kernel : _ < twoTo 0)) (by norm_num)
  have sumMoved := Binary64.round_error
    (add_nonneg (Nat.cast_nonneg (wholeSeconds duration))
      (Binary64.round_nonneg (exactFraction duration)))
    (lt_of_lt_of_le (by linarith [round_exactFraction_lt duration]) limit) (by norm_num)
  calc |secondsOf duration - exactSeconds duration|
      = |Binary64.round (wholeSeconds duration + Binary64.round (exactFraction duration)) -
            (wholeSeconds duration + Binary64.round (exactFraction duration)) +
          (Binary64.round (exactFraction duration) - exactFraction duration)| := by
        rw [secondsOf_eq, wholeExact, exactSeconds_eq]
        congr 1
        ring
    _ ≤ twoTo (23 - 54) + twoTo (0 - 54) :=
        (abs_add_le _ _).trans (add_le_add sumMoved fractionMoved)
    _ < 1 / 2000000000 := by decide +kernel

/-- A length of time up to the limit comes back from its seconds as it was. -/
theorem durationOf?_secondsOf {duration : Duration}
    (small : duration.nanoseconds ≤ exactLimit * 1000000000) :
    durationOf? (secondsOf duration) = some duration := by
  rcases small.lt_or_eq with less | same
  · obtain ⟨movedLeast, movedMost⟩ := abs_lt.mp (secondsOf_error less)
    have nanoseconds : exactSeconds duration * 1000000000 = duration.nanoseconds :=
      div_mul_cancel₀ _ (by norm_num)
    have nearest : nearestNanoseconds (secondsOf duration) = duration.nanoseconds := by
      have rounded : roundHalfEven (secondsOf duration * 1000000000) = duration.nanoseconds :=
        roundHalfEven_eq (by push_cast; linarith) (by push_cast; linarith)
      rw [nearestNanoseconds, rounded, Int.toNat_natCast]
    have belowLimit : secondsOf duration < secondsLimit :=
      secondsOf_lt_limit_iff.mpr (less.trans (by decide))
    rw [durationOf?_eq_some_iff, nearest]
    exact ⟨⟨belowLimit, less.trans (by decide)⟩, rfl⟩
  · obtain ⟨nanoseconds⟩ := duration
    subst same
    decide +kernel

end AssetSearch.Network

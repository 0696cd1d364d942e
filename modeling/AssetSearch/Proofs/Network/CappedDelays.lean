/-
This file shows that the delays between attempts grow, and when they exist and are not longer than
the largest one. Both durations are rounded to seconds before they are compared, so that a largest
delay of more than `2 ^ 23` seconds may be exceeded.
-/

import AssetSearch.Proofs.Network.RequestedPause
import AssetSearch.Proofs.Network.RoundedSeconds

namespace AssetSearch.Network

open AssetSearch.Number
open AssetSearch.Number.Binary64 (IsRepresentable)
open AssetSearch.Time

theorem smaller_eq_min (first second : Rat) : smaller first second = min first second := by
  rw [smaller]
  split
  · next less => exact (min_eq_right less.le).symm
  · next notLess => exact (min_eq_left (not_lt.mp notLess)).symm

/-- A duration has less than `2 ^ 64` seconds. -/
def longestDuration : Duration := ⟨Nat.pow 2 64 * 1000000000 - 1⟩

namespace RetryPolicy

/-- These are the seconds of a delay that has doubled after every attempt and is not capped. -/
def doubledSeconds (policy : RetryPolicy) (attempt : Nat) : Rat :=
  secondsOf policy.baseDelay * twoTo (min attempt lastDoubling)

/-- The largest delay comes back from its seconds, and it is not longer than it was. -/
def KeepsCap (policy : RetryPolicy) : Prop :=
  ∃ cap, durationOf? (secondsOf policy.maxDelay) = some cap ∧
    cap.nanoseconds ≤ policy.maxDelay.nanoseconds

/-- Both delays exist, the later one is not the shorter one, and the largest delay caps it. -/
def GrowUnderCap (policy : RetryPolicy) (earlier later : Option Duration) : Prop :=
  ∃ short long, earlier = some short ∧ later = some long ∧
    short.nanoseconds ≤ long.nanoseconds ∧ long.nanoseconds ≤ policy.maxDelay.nanoseconds

section

variable {policy : RetryPolicy} {earlier later attempt : Nat}

theorem isRepresentable_doubledSeconds : IsRepresentable (policy.doubledSeconds attempt) :=
  (isRepresentable_secondsOf policy.baseDelay).mul_twoTo (by unfold lastDoubling; omega)

/-- Doubling is exact, and only the two durations of the policy are rounded. -/
theorem plainSeconds_eq : policy.plainSeconds attempt =
    min (policy.doubledSeconds attempt) (secondsOf policy.maxDelay) := by
  have unrounded : Binary64.round (policy.doubledSeconds attempt) = policy.doubledSeconds attempt :=
    isRepresentable_doubledSeconds.round_eq_self
  rw [plainSeconds, smaller_eq_min, Binary64.multiply]
  exact congrArg (min · _) unrounded

theorem doubledSeconds_mono (order : earlier ≤ later) :
    policy.doubledSeconds earlier ≤ policy.doubledSeconds later := by
  have nonnegative := (isRepresentable_secondsOf policy.baseDelay).nonneg
  refine mul_le_mul_of_nonneg_left (twoTo_le ?_) nonnegative
  omega

theorem plainSeconds_mono (order : earlier ≤ later) :
    policy.plainSeconds earlier ≤ policy.plainSeconds later := by
  rw [plainSeconds_eq, plainSeconds_eq]
  exact min_le_min_right _ (doubledSeconds_mono order)

/-- If there is a delay after an attempt, then there was one after every attempt before. -/
theorem delay?_grows (order : earlier ≤ later) {long : Duration}
    (found : policy.delay? later = some long) :
    ∃ short, policy.delay? earlier = some short ∧ short.nanoseconds ≤ long.nanoseconds :=
  durationOf?_mono (plainSeconds_mono order) found

theorem isRepresentable_plainSeconds : IsRepresentable (policy.plainSeconds attempt) := by
  rw [plainSeconds_eq]
  rcases min_choice (policy.doubledSeconds attempt) (secondsOf policy.maxDelay) with same | same
  · rw [same]
    exact isRepresentable_doubledSeconds
  · rw [same]
    exact isRepresentable_secondsOf policy.maxDelay

/-- Only a largest delay that is rounded up to the limit lets a delay reach it. -/
theorem delay?_eq_none_iff : policy.delay? attempt = none ↔
    secondsLimit ≤ policy.doubledSeconds attempt ∧
      roundedLimit * 1000000000 ≤ policy.maxDelay.nanoseconds := by
  rw [delay?, durationOf?_eq_none_iff isRepresentable_plainSeconds, plainSeconds_eq, le_min_iff,
    ← not_lt (a := secondsOf policy.maxDelay), secondsOf_lt_limit_iff, Nat.not_lt]

example : (RetryPolicy.mk 3 longestDuration longestDuration false).delay? 0 = none := by
  decide +kernel

theorem IsStorable.secondsOf_le (storable : policy.IsStorable) :
    secondsOf policy.maxDelay ≤ secondsLimit := by
  apply Network.secondsOf_le (Binary64.isRepresentable_twoTo (by norm_num))
  have most : policy.maxDelay.nanoseconds ≤ 2 ^ 64 * 1000000000 := Nat.le_of_lt storable
  rw [exactSeconds, div_le_iff₀ (by norm_num), show twoTo 64 = 2 ^ 64 from twoTo_natCast 64]
  exact_mod_cast most

/-- A delay is capped if it stays below the cap in seconds, or if the cap itself is kept. -/
theorem delay?_capped_iff (storable : policy.IsStorable) :
    (∃ delay, policy.delay? attempt = some delay ∧
      delay.nanoseconds ≤ policy.maxDelay.nanoseconds) ↔
    policy.doubledSeconds attempt < secondsOf policy.maxDelay ∨ policy.KeepsCap := by
  rcases lt_or_ge (policy.doubledSeconds attempt) (secondsOf policy.maxDelay) with below | reached
  · refine iff_of_true ?_ (Or.inl below)
    have nearest := nearestNanoseconds_le_of_lt isRepresentable_doubledSeconds below
    refine ⟨⟨_⟩, ?_, nearest⟩
    rw [delay?, plainSeconds_eq, min_eq_left below.le, durationOf?_eq_some_iff]
    exact ⟨⟨below.trans_le storable.secondsOf_le, nearest.trans_lt storable⟩, rfl⟩
  · rw [or_iff_right (not_lt.mpr reached), delay?, plainSeconds_eq, min_eq_right reached]
    rfl

theorem keepsCap_of_le (small : policy.maxDelay.nanoseconds ≤ exactLimit * 1000000000) :
    policy.KeepsCap :=
  ⟨policy.maxDelay, durationOf?_secondsOf small, le_rfl⟩

theorem drawnDelay?_plain (plain : policy.jitter = false) (factor : Rat) :
    policy.drawnDelay? attempt factor = policy.delay? attempt := by
  rw [drawnDelay?, plain]
  rfl

theorem growUnderCap_iff (storable : policy.IsStorable) (order : earlier ≤ later) :
    policy.GrowUnderCap (policy.delay? earlier) (policy.delay? later) ↔
      policy.doubledSeconds later < secondsOf policy.maxDelay ∨ policy.KeepsCap := by
  rw [← delay?_capped_iff storable]
  constructor
  · rintro ⟨_, long, -, found, -, capped⟩
    exact ⟨long, found, capped⟩
  · rintro ⟨long, found, capped⟩
    obtain ⟨short, foundEarlier, grows⟩ := delay?_grows order found
    exact ⟨short, long, foundEarlier, found, grows, capped⟩

/-- Delays without jitter grow. They exist and are capped exactly if they stay below the rounded
seconds of the largest delay or this one keeps its length. It always does up to `2 ^ 23` seconds. -/
theorem delays_growUnderCap_iff (plain : policy.jitter = false) (storable : policy.IsStorable)
    (order : earlier ≤ later) (factors : Nat → Rat) :
    (∀ long, policy.drawnDelay? later (factors later) = some long →
      ∃ short, policy.drawnDelay? earlier (factors earlier) = some short ∧
        short.nanoseconds ≤ long.nanoseconds) ∧
      (policy.drawnDelay? later (factors later) = none ↔
        secondsLimit ≤ policy.doubledSeconds later ∧
          roundedLimit * 1000000000 ≤ policy.maxDelay.nanoseconds) ∧
      (policy.GrowUnderCap (policy.drawnDelay? earlier (factors earlier))
          (policy.drawnDelay? later (factors later)) ↔
        policy.doubledSeconds later < secondsOf policy.maxDelay ∨ policy.KeepsCap) ∧
      (policy.maxDelay.nanoseconds ≤ exactLimit * 1000000000 →
        policy.GrowUnderCap (policy.drawnDelay? earlier (factors earlier))
          (policy.drawnDelay? later (factors later))) := by
  rw [drawnDelay?_plain plain, drawnDelay?_plain plain]
  have capped := growUnderCap_iff storable order
  refine ⟨fun long found => delay?_grows order found, delay?_eq_none_iff, capped, fun small => ?_⟩
  exact capped.mpr (Or.inr (keepsCap_of_le small))

end

/-- The largest delay is the longest one that there is. -/
def uncapped : RetryPolicy := ⟨3, .ofMilliseconds 250, longestDuration, false⟩

theorem delays_growUnderCap_iff_uncapped :
    uncapped.jitter = false ∧ uncapped.IsStorable ∧ 29 ≤ 30 ∧
      uncapped.GrowUnderCap (uncapped.drawnDelay? 29 1) (uncapped.drawnDelay? 30 1) := by
  have storable : uncapped.IsStorable := by
    unfold IsStorable
    decide
  refine ⟨rfl, storable, by decide, ?_⟩
  have grows := delays_growUnderCap_iff rfl storable (by decide : 29 ≤ 30) fun _ => 1
  exact grows.2.2.1.mpr (Or.inl (by decide +kernel))

/-- The largest delay is one nanosecond longer than `2 ^ 23` seconds. -/
def longCap : RetryPolicy := ⟨3, .ofSeconds 10000000, ⟨8388608000000001⟩, false⟩

/-- The nearest number of seconds is another nanosecond longer, and so is the delay. -/
theorem longCap_isExceeded :
    longCap.jitter = false ∧ longCap.maxDelay = ⟨8388608000000001⟩ ∧
      longCap.drawnDelay? 0 1 = some ⟨8388608000000002⟩ ∧
      ¬ longCap.GrowUnderCap (longCap.drawnDelay? 0 1) (longCap.drawnDelay? 0 1) := by
  have delay : longCap.drawnDelay? 0 1 = some ⟨8388608000000002⟩ := by decide +kernel
  refine ⟨rfl, rfl, delay, ?_⟩
  rintro ⟨short, long, -, found, -, capped⟩
  rw [delay] at found
  cases found
  exact absurd capped (by decide)

end RetryPolicy

end AssetSearch.Network

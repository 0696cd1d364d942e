/-
This file counts attempts in a word of 32 bits and shows that the count never overflows. A policy
whose largest number of attempts fits into such a word is followed in the same way with it.
-/

import AssetSearch.Network.Retry

namespace AssetSearch.Network

open AssetSearch.Time

/-- A word that is not the largest one is followed by the next number. -/
theorem toNat_nextWord {count : UInt32} (fits : count.toNat + 1 < UInt32.size) :
    (count + 1).toNat = count.toNat + 1 := by
  rw [UInt32.toNat_add]
  exact Nat.mod_eq_of_lt fits

section

variable {Effect : Type → Type} [Monad Effect] {Fault Result : Type}

/-- The number after that of an attempt is computed as soon as the attempt begins, and there is no
result when it does not fit into the word. -/
def retryCountedFrom (policy : RetryPolicy) (rules : RetryRules Fault)
    (backoff : Nat → Effect Duration) (pause : Duration → Effect Unit)
    (operation : Effect (Except Fault Result)) (limit count : UInt32) :
    Effect (Option (Except Fault Result)) :=
  if count.toNat + 1 < UInt32.size then do
    match ← operation with
    | .ok result => return some (.ok result)
    | .error fault =>
        if !rules.shouldRetry fault then return some (.error fault)
        else if limit ≤ count + 1 then return some (.error fault)
        else
          let delay ← backoff count.toNat
          match policy.pauseFor? delay (rules.retryAfter fault) with
          | none => return some (.error fault)
          | some duration =>
              pause duration
              retryCountedFrom policy rules backoff pause operation limit (count + 1)
  else return none
termination_by limit.toNat - count.toNat
decreasing_by
  have larger := toNat_nextWord ‹count.toNat + 1 < UInt32.size›
  have further := ‹¬ limit ≤ count + 1›
  rw [UInt32.le_iff_toNat_le] at further
  omega

/-- Attempts are counted from zero. -/
def retryCounted (policy : RetryPolicy) (rules : RetryRules Fault)
    (backoff : Nat → Effect Duration) (pause : Duration → Effect Unit)
    (operation : Effect (Except Fault Result)) : Effect (Option (Except Fault Result)) :=
  retryCountedFrom policy rules backoff pause operation (.ofNat policy.attempts) 0

variable [LawfulMonad Effect] {policy : RetryPolicy} {rules : RetryRules Fault}
  {backoff : Nat → Effect Duration} {pause : Duration → Effect Unit}
  {operation : Effect (Except Fault Result)}

/-- The count stays below its limit, so that the next number always fits. -/
theorem retryCountedFrom_eq {limit count : UInt32} {remaining : Nat}
    (room : count.toNat + remaining + 1 = limit.toNat) :
    retryCountedFrom policy rules backoff pause operation limit count =
      some <$> retryFrom policy rules backoff pause operation count.toNat remaining := by
  induction remaining generalizing count with
  | zero =>
      have fits : count.toNat + 1 < UInt32.size := by
        rw [show count.toNat + 1 = limit.toNat by omega]
        exact limit.toNat_lt
      have exhausted : limit ≤ count + 1 := by
        rw [UInt32.le_iff_toNat_le, toNat_nextWord fits]
        omega
      rw [retryCountedFrom, if_pos fits, retryFrom, map_eq_pure_bind]
      apply bind_congr
      rintro (fault | result)
      · simp only [exhausted, if_true, ite_self]
      · rfl
  | succ remaining inductionHypothesis =>
      have fits : count.toNat + 1 < UInt32.size := by
        have smaller : count.toNat + 1 < limit.toNat := by omega
        exact Nat.lt_trans smaller limit.toNat_lt
      have larger := toNat_nextWord fits
      have further : ¬ limit ≤ count + 1 := by
        rw [UInt32.le_iff_toNat_le]
        omega
      rw [retryCountedFrom, if_pos fits, retryFrom, map_bind]
      apply bind_congr
      rintro (fault | result)
      · cases canHelp : rules.shouldRetry fault with
        | false => simp only [canHelp, Bool.not_false, if_true, map_pure]
        | true =>
            simp only [canHelp, Bool.not_true, Bool.false_eq_true, if_false, further, map_bind]
            apply bind_congr
            intro delay
            cases policy.pauseFor? delay (rules.retryAfter fault) with
            | none => simp only [map_pure]
            | some duration =>
                simp only [map_bind]
                apply bind_congr
                intro _
                rw [← larger]
                apply inductionHypothesis
                omega
      · simp only [map_pure]

theorem retryCounted_eq (fits : policy.maxAttempts < UInt32.size) :
    retryCounted policy rules backoff pause operation =
      some <$> retry policy rules backoff pause operation := by
  have limit : (UInt32.ofNat policy.attempts).toNat = policy.attempts := by
    apply UInt32.toNat_ofNat_of_lt'
    rw [RetryPolicy.attempts]
    exact Nat.max_lt.mpr ⟨fits, by decide⟩
  apply retryCountedFrom_eq
  rw [limit, RetryPolicy.attempts, UInt32.toNat_zero]
  omega

end

end AssetSearch.Network

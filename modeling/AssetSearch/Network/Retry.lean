/-
This file repeats an operation until it succeeds, fails for good or runs out of attempts.
-/

import AssetSearch.Network.Backoff

namespace AssetSearch.Network

open AssetSearch.Time

/-- A fault says whether a retry can help and how long to wait for it at least. -/
structure RetryRules (Fault : Type) where
  shouldRetry : Fault → Bool
  retryAfter : Fault → Option Duration

/-- A wait that is longer than the largest one ends the attempts. -/
def RetryPolicy.pauseFor? (policy : RetryPolicy) (backoff : Duration) :
    Option Duration → Option Duration
  | none => some backoff
  | some asked =>
      if asked.isLongerThan policy.maxDelay then none else some (backoff.max asked)

/-- The attempt count of the policy may be zero, but the first attempt is always made. -/
def RetryPolicy.attempts (policy : RetryPolicy) : Nat := max policy.maxAttempts 1

section

variable {Effect : Type → Type} [Monad Effect] {Fault Result : Type}

/-- The remaining attempts are those after the one that begins now. -/
def retryFrom (policy : RetryPolicy) (rules : RetryRules Fault)
    (backoff : Nat → Effect Duration) (pause : Duration → Effect Unit)
    (operation : Effect (Except Fault Result)) (attempt : Nat) :
    (remaining : Nat) → Effect (Except Fault Result)
  | 0 => operation
  | remaining + 1 => do
      match ← operation with
      | .ok result => return .ok result
      | .error fault =>
          if !rules.shouldRetry fault then return .error fault
          else
            let delay ← backoff attempt
            match policy.pauseFor? delay (rules.retryAfter fault) with
            | none => return .error fault
            | some duration =>
                pause duration
                retryFrom policy rules backoff pause operation (attempt + 1) remaining

/-- The result is that of the last attempt. -/
def retry (policy : RetryPolicy) (rules : RetryRules Fault) (backoff : Nat → Effect Duration)
    (pause : Duration → Effect Unit) (operation : Effect (Except Fault Result)) :
    Effect (Except Fault Result) :=
  retryFrom policy rules backoff pause operation 0 (policy.attempts - 1)

end

end AssetSearch.Network

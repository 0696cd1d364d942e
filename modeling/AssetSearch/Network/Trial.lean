/-
This file runs retries of operations whose outcomes are fixed in advance, on a clock that moves
only by waiting.
-/

import AssetSearch.Network.Retry

namespace AssetSearch.Network

open AssetSearch.Time

/-- The last outcome is repeated for ever. A trial is broken when a delay did not exist. -/
structure Trial (Fault Result : Type) where
  outcomes : List (Except Fault Result)
  last : Except Fault Result
  now : Nat
  starts : List Nat
  isBroken : Bool

namespace Trial

variable {Fault Result : Type}

/-- There is at least one outcome. -/
def create (first : Except Fault Result) (later : List (Except Fault Result)) :
    Trial Fault Result :=
  ⟨first :: later, later.getLastD first, 0, [], false⟩

/-- The moment of the call is written down. A broken trial makes no more calls. -/
def call : StateM (Trial Fault Result) (Except Fault Result) := fun trial =>
  if trial.isBroken then (trial.last, trial)
  else
    let starts := trial.starts ++ [trial.now]
    match trial.outcomes with
    | [] => (trial.last, { trial with starts := starts })
    | outcome :: later => (outcome, { trial with outcomes := later, starts := starts })

def backoff (policy : RetryPolicy) (attempt : Nat) : StateM (Trial Fault Result) Duration :=
  fun trial =>
    match policy.delay? attempt with
    | some delay => (delay, trial)
    | none => (.zero, { trial with isBroken := true })

/-- Timers count whole milliseconds. -/
def pause (duration : Duration) : StateM (Trial Fault Result) Unit := fun trial =>
  ((), { trial with now := trial.now + duration.timerMilliseconds })

/-- The result of a trial that is broken in the end means nothing. -/
def run (policy : RetryPolicy) (rules : RetryRules Fault) (trial : Trial Fault Result) :
    Except Fault Result × Trial Fault Result :=
  retry policy rules (backoff policy) pause call trial

end Trial

end AssetSearch.Network

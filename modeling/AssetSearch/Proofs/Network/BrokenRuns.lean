/-
This file observes runs of retried operations whose delays need not exist. Such a run breaks off,
without any result, at the first delay that is needed and missing. Until then it is like any other.
-/

import AssetSearch.Proofs.Network.RetryRuns

namespace AssetSearch.Network

open AssetSearch.Time

section

variable {Call Fault Result : Type} (policy : RetryPolicy) (rules : RetryRules Fault)
  (outcomes : Nat → Except Fault Result) (delays : Nat → Option Duration)

variable {policy rules outcomes delays}

section

variable {operation : Observed Call (Except Fault Result)} {attempt remaining : Nat}
  {events : List (RunEvent Call)}

section

variable {fault : Fault} {next : List (RunEvent Call)}
  (ran : operation events = (.error fault, next))

include ran

end

end

section

variable {call : Call} {attempt remaining : Nat}

end

end

end AssetSearch.Network

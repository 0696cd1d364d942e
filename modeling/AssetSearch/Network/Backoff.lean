/-
This file holds the policy for sending requests again, and computes how long to wait in between.
Waits double from one attempt to the next, up to a largest one.
-/

import AssetSearch.Number.Binary64
import AssetSearch.Time.Duration

namespace AssetSearch.Network

open AssetSearch.Number
open AssetSearch.Time

structure RetryPolicy where
  maxAttempts : Nat
  baseDelay : Duration
  maxDelay : Duration
  jitter : Bool
  deriving DecidableEq, Repr

/-- A duration has fewer seconds than this. -/
def secondsLimit : Rat := twoTo 64

/-- The seconds and the nanoseconds of a second are rounded one after the other. -/
def secondsOf (duration : Duration) : Rat :=
  Binary64.add (Binary64.round (duration.nanoseconds / 1000000000 : Nat))
    (Binary64.divide (duration.nanoseconds % 1000000000 : Nat) 1000000000)

/-- Seconds are rounded to the nearest nanosecond, and there may be too many of them. -/
def durationOf? (seconds : Rat) : Option Duration :=
  let nanoseconds := (roundHalfEven (seconds * 1000000000)).toNat
  if seconds < secondsLimit && nanoseconds < Nat.pow 2 64 * 1000000000 then some ⟨nanoseconds⟩
  else none

def smaller (first second : Rat) : Rat :=
  if second < first then second else first

namespace RetryPolicy

/-- A request is sent three times at most. -/
def default : RetryPolicy :=
  ⟨3, .ofMilliseconds 250, .ofSeconds 5, true⟩

/-- Nothing is sent again. -/
def never : RetryPolicy := { default with maxAttempts := 1 }

/-- There is always a first attempt. -/
def withMaxAttempts (policy : RetryPolicy) (attempts : Nat) : RetryPolicy :=
  { policy with maxAttempts := max attempts 1 }

/-- The delay stops doubling at this attempt. -/
def lastDoubling : Nat := 30

/-- The delay is twice as long after every attempt, and never longer than the largest one. -/
def plainSeconds (policy : RetryPolicy) (attempt : Nat) : Rat :=
  smaller
    (Binary64.multiply (secondsOf policy.baseDelay) (twoTo (min attempt lastDoubling)))
    (secondsOf policy.maxDelay)

/-- The factor scales a delay, which still is not longer than the largest one. -/
def scaledSeconds (policy : RetryPolicy) (attempt : Nat) (factor : Rat) : Rat :=
  smaller (Binary64.multiply (policy.plainSeconds attempt) factor) (secondsOf policy.maxDelay)

/-- The delay after an attempt, counted from zero, does not exist when it is too long. -/
def delay? (policy : RetryPolicy) (attempt : Nat) : Option Duration :=
  durationOf? (policy.plainSeconds attempt)

/-- With jitter a factor between one half and three halves is drawn for each delay. -/
def drawnDelay? (policy : RetryPolicy) (attempt : Nat) (factor : Rat) : Option Duration :=
  if policy.jitter then durationOf? (policy.scaledSeconds attempt factor)
  else policy.delay? attempt

/-- A drawn delay is about half to three halves of the plain one, and not above the largest. -/
def isDrawnWithinBounds (policy : RetryPolicy) (attempt : Nat) (factor : Rat) : Bool :=
  match policy.delay? attempt, policy.drawnDelay? attempt factor with
  | some plain, some drawn =>
      plain.nanoseconds ≤ 2 * drawn.nanoseconds + 1 &&
        2 * drawn.nanoseconds ≤ 3 * plain.nanoseconds + 1 &&
        drawn.nanoseconds ≤ policy.maxDelay.nanoseconds
  | _, _ => false

/-- These factors stand for all that can be drawn. -/
def sampleFactors : List Rat :=
  (List.range 20).map fun (index : Nat) => 1 / 2 + (index : Rat) / 20

def staysWithinBounds (policy : RetryPolicy) (attempt : Nat) : Bool :=
  sampleFactors.all (policy.isDrawnWithinBounds attempt)

end RetryPolicy

end AssetSearch.Network

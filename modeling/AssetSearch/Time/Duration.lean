/-
This file holds lengths of time in whole nanoseconds, and their text.
-/

namespace AssetSearch.Time

structure Duration where
  nanoseconds : Nat
  deriving DecidableEq, Repr

namespace Duration

def ofSeconds (seconds : Nat) : Duration := ⟨seconds * 1000000000⟩

def ofMilliseconds (milliseconds : Nat) : Duration := ⟨milliseconds * 1000000⟩

def zero : Duration := ⟨0⟩

def max (first second : Duration) : Duration :=
  if first.nanoseconds ≤ second.nanoseconds then second else first

def isLongerThan (first second : Duration) : Bool :=
  second.nanoseconds < first.nanoseconds

def wholeMilliseconds (duration : Duration) : Nat :=
  duration.nanoseconds / 1000000

/-- A timer that counts milliseconds ends at the first one that is not too early. -/
def timerMilliseconds (duration : Duration) : Nat :=
  (duration.nanoseconds + 999999) / 1000000

/-- The fraction has the given number of places and loses its trailing zeros. -/
def fractionText (fraction places : Nat) : String :=
  let digits := (toString fraction).toList
  let padded := List.replicate (places - digits.length) '0' ++ digits
  let kept := (padded.reverse.dropWhile (· == '0')).reverse
  if kept.isEmpty then "" else "." ++ String.ofList kept

/-- The number counts the largest unit that fits. -/
def text (duration : Duration) : String :=
  let inUnit (size places : Nat) (name : String) : String :=
    toString (duration.nanoseconds / size) ++
      fractionText (duration.nanoseconds % size) places ++ name
  if 1000000000 ≤ duration.nanoseconds then inUnit 1000000000 9 "s"
  else if 1000000 ≤ duration.nanoseconds then inUnit 1000000 6 "ms"
  else if 1000 ≤ duration.nanoseconds then inUnit 1000 3 "µs"
  else inUnit 1 0 "ns"

end Duration

end AssetSearch.Time

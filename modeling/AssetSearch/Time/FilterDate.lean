/-
This file reads the dates and times that a filter value may have: a full point in time with its
offset, a local time that is taken as UTC, or a day alone.
-/

import AssetSearch.Time.Rfc3339

namespace AssetSearch.Time.FilterDate

open AssetSearch.Text

/-- Blanks may stand before each number but not before a mark. -/
def readDate (characters : List Char) : Except TimeFault (Date × List Char) := do
  let (year, rest) ← Scan.year (trimStart characters)
  Scan.inRange (-2147483648) 2147483647 year
  let rest ← Scan.literal '-' rest
  let (month, rest) ← Scan.shortNumber rest
  Scan.inRange 1 12 month
  let rest ← Scan.literal '-' rest
  let (day, rest) ← Scan.shortNumber rest
  Scan.inRange 1 31 day
  return (⟨year, month, day⟩, rest)

/-- The capital letter T stands between date and time. -/
def readMinutes (characters : List Char) :
    Except TimeFault ((Date × Nat × Nat) × List Char) := do
  let (date, rest) ← readDate characters
  let rest ← Scan.literal 'T' rest
  let (hour, rest) ← Scan.shortNumber rest
  Scan.inRange 0 23 hour
  let rest ← Scan.literal ':' rest
  let (minute, rest) ← Scan.shortNumber rest
  Scan.inRange 0 59 minute
  return ((date, hour, minute), rest)

/-- Nothing may be left, and the day must exist. -/
def finish (instant : Instant) (rest : List Char) : Except TimeFault Instant :=
  if !rest.isEmpty then .error .trailing
  else if !instant.date.isValid then .error .outOfRange
  else .ok instant

def readSecondsLocal (characters : List Char) : Except TimeFault Instant := do
  let ((date, hour, minute), rest) ← readMinutes characters
  let rest ← Scan.literal ':' rest
  let (second, rest) ← Scan.shortNumber rest
  Scan.inRange 0 60 second
  let (nanosecond, rest) ← Scan.optionalFraction rest
  finish (Instant.ofClock date hour minute second nanosecond) rest

def readMinutesLocal (characters : List Char) : Except TimeFault Instant := do
  let ((date, hour, minute), rest) ← readMinutes characters
  finish (Instant.ofClock date hour minute 0 0) rest

def readDay (characters : List Char) : Except TimeFault Instant := do
  let (date, rest) ← readDate characters
  finish (Instant.ofClock date 0 0 0 0) rest

/-- The first form that fits decides. -/
def instant? (characters : List Char) : Option Instant :=
  (Rfc3339.readStrict (String.ofList characters)).toOption <|>
    (readSecondsLocal characters).toOption <|>
    (readMinutesLocal characters).toOption <|>
    (readDay characters).toOption

def milliseconds? (characters : List Char) : Option Int :=
  (instant? characters).map Instant.milliseconds

end AssetSearch.Time.FilterDate

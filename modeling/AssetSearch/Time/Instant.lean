/-
This file holds points in time, in UTC and to the nanosecond, with leap seconds.
-/

import AssetSearch.Time.Calendar

namespace AssetSearch.Time

/-- A leap second has the second before it and counts its nanoseconds from one thousand million. -/
structure Instant where
  date : Date
  secondOfDay : Nat
  nanosecond : Nat
  deriving DecidableEq, Repr

namespace Instant

/-- The clock started at this point. -/
def epoch : Instant := ⟨⟨1970, 1, 1⟩, 0, 0⟩

/-- Milliseconds since the epoch are rounded down. -/
def milliseconds (instant : Instant) : Int :=
  (instant.date.dayNumber * 86400 + instant.secondOfDay) * 1000 +
    (instant.nanosecond / 1000000 : Nat)

/-- Instants are compared by day, then by second, then by nanosecond. -/
def isBefore (first second : Instant) : Bool :=
  if first.date.dayNumber ≠ second.date.dayNumber then
    first.date.dayNumber < second.date.dayNumber
  else if first.secondOfDay ≠ second.secondOfDay then first.secondOfDay < second.secondOfDay
  else first.nanosecond < second.nanosecond

/-- A local time is the offset ahead of UTC; the offset is shorter than a day. -/
def ofLocal? (instant : Instant) (offset : Int) : Option Instant :=
  let shifted : Int := instant.secondOfDay - offset
  if shifted < 0 then
    instant.date.previous?.map fun date => ⟨date, (shifted + 86400).toNat, instant.nanosecond⟩
  else if 86400 ≤ shifted then
    instant.date.next?.map fun date => ⟨date, (shifted - 86400).toNat, instant.nanosecond⟩
  else some ⟨instant.date, shifted.toNat, instant.nanosecond⟩

/-- Days are counted forward one by one, and the last day of the calendar is not left. -/
def addDays : (days : Nat) → Date → Date
  | 0, date => date
  | days + 1, date =>
      match date.next? with
      | some following => addDays days following
      | none => date

/-- This is the point in time so many milliseconds later. -/
def later (instant : Instant) (milliseconds : Nat) : Instant :=
  let nanosecond := instant.nanosecond + milliseconds % 1000 * 1000000
  let second := instant.secondOfDay + milliseconds / 1000 + nanosecond / 1000000000
  ⟨addDays (second / 86400) instant.date, second % 86400, nanosecond % 1000000000⟩

end Instant

end AssetSearch.Time

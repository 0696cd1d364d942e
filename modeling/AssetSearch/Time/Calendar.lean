/-
This file holds the proleptic Gregorian calendar. Day numbers count from 1 January 1970.
-/

namespace AssetSearch.Time

structure Date where
  year : Int
  month : Nat
  day : Nat
  deriving DecidableEq, Repr

def isLeapYear (year : Int) : Bool :=
  year % 4 = 0 && (year % 100 ≠ 0 || year % 400 = 0)

def daysInMonth (year : Int) (month : Nat) : Nat :=
  match month with
  | 2 => if isLeapYear year then 29 else 28
  | 4 | 6 | 9 | 11 => 30
  | _ => 31

/-- The calendar covers the years between these two. -/
def firstYear : Int := -262143

def lastYear : Int := 262142

namespace Date

/-- The day exists, in a year that the calendar covers. -/
def isValid (date : Date) : Bool :=
  firstYear ≤ date.year && date.year ≤ lastYear && 1 ≤ date.month && date.month ≤ 12 &&
    1 ≤ date.day && date.day ≤ daysInMonth date.year date.month

/-- The day after the last one of the calendar does not exist. -/
def next? (date : Date) : Option Date :=
  let following : Date :=
    if date.day < daysInMonth date.year date.month then ⟨date.year, date.month, date.day + 1⟩
    else if date.month < 12 then ⟨date.year, date.month + 1, 1⟩
    else ⟨date.year + 1, 1, 1⟩
  if following.year ≤ lastYear then some following else none

/-- The day before the first one of the calendar does not exist. -/
def previous? (date : Date) : Option Date :=
  let preceding : Date :=
    if 1 < date.day then ⟨date.year, date.month, date.day - 1⟩
    else if 1 < date.month then
      ⟨date.year, date.month - 1, daysInMonth date.year (date.month - 1)⟩
    else ⟨date.year - 1, 12, 31⟩
  if firstYear ≤ preceding.year then some preceding else none

/-- This counts the leap days in the years 1 to the given one, and negatively before that. -/
def leapDaysThrough (year : Int) : Int :=
  year / 4 - year / 100 + year / 400

def daysBeforeYear (year : Int) : Int :=
  365 * (year - 1970) + (leapDaysThrough (year - 1) - leapDaysThrough 1969)

/-- Months are counted from one. -/
def daysBeforeMonth (year : Int) : (month : Nat) → Nat
  | 0 | 1 => 0
  | month + 2 => daysBeforeMonth year (month + 1) + daysInMonth year (month + 1)

def dayNumber (date : Date) : Int :=
  daysBeforeYear date.year + daysBeforeMonth date.year date.month + (date.day - 1 : Int)

end Date

end AssetSearch.Time

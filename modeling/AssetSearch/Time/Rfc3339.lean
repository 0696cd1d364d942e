/-
This file reads and writes points in time in the form of RFC 3339. The strict reader follows the
standard; the relaxed one allows blanks between the parts, short numbers and years of any length.
-/

import AssetSearch.Time.Scan

namespace AssetSearch.Time.Rfc3339

open AssetSearch.Text

/-- The fields of a local time, as read. -/
structure Fields where
  date : Date
  hour : Nat
  minute : Nat
  second : Nat
  nanosecond : Nat
  offset : Int
  deriving DecidableEq, Repr

/-- An offset is shorter than a day. -/
def isOffset (offset : Int) : Bool :=
  -86400 < offset && offset < 86400

/-- The day and the offset must exist, and the point in time must lie in the calendar. -/
def Fields.instant (fields : Fields) : Except TimeFault Instant :=
  if !fields.date.isValid then .error .outOfRange
  else if !isOffset fields.offset then .error .outOfRange
  else
    let localTime :=
      Instant.ofClock fields.date fields.hour fields.minute fields.second fields.nanosecond
    match localTime.ofLocal? fields.offset with
    | some instant => .ok instant
    | none => .error .impossible

/-- The letter T in either case, or a space, stands between date and time. -/
def dateTimeSeparator : List Char → Except TimeFault (List Char)
  | [] => .error .tooShort
  | 'T' :: rest => .ok rest
  | 't' :: rest => .ok rest
  | ' ' :: rest => .ok rest
  | _ :: _ => .error .invalid

/-- Offsets of a day and more are out of range for the standard. -/
def largestOffset : Int := (23 * 60 + 59) * 60

/-- A date and a time of day up to the second have at least this many bytes. -/
def shortestClock : Nat := 19

/-- The length is looked at before any character. The day is checked when it has been read, and the
time of day when it has been read with its fraction. -/
def readStrictFields (characters : List Char) : Except TimeFault (Fields × List Char) := do
  Scan.check (Scan.hasBytes shortestClock characters) .tooShort
  let (year, rest) ← Scan.number 4 (some 4) characters
  let rest ← Scan.literal '-' rest
  let (month, rest) ← Scan.number 2 (some 2) rest
  let rest ← Scan.literal '-' rest
  let (day, rest) ← Scan.number 2 (some 2) rest
  let date : Date := ⟨year, month, day⟩
  Scan.check date.isValid .outOfRange
  let rest ← dateTimeSeparator rest
  let (hour, rest) ← Scan.number 2 (some 2) rest
  let rest ← Scan.literal ':' rest
  let (minute, rest) ← Scan.number 2 (some 2) rest
  let rest ← Scan.literal ':' rest
  let (second, rest) ← Scan.number 2 (some 2) rest
  let (nanosecond, rest) ← Scan.optionalFraction rest
  Scan.inRange 0 23 hour
  Scan.inRange 0 59 minute
  Scan.inRange 0 60 second
  let (offset, rest) ← Scan.offset (Scan.literal ':') rest
  Scan.inRange (-largestOffset) largestOffset offset
  return (⟨date, hour, minute, second, nanosecond, offset⟩, rest)

/-- Nothing may follow the offset. -/
def readStrict (text : String) : Except TimeFault Instant := do
  let (fields, rest) ← readStrictFields text.toList
  if !rest.isEmpty then throw TimeFault.trailing
  fields.instant

/-- A mark may have blanks on both sides. -/
def spacedLiteral (expected : Char) (characters : List Char) :
    Except TimeFault (List Char) := do
  let rest ← Scan.literal expected (trimStart characters)
  return trimStart rest

/-- Colons and blanks in any number may stand before the minutes of an offset. -/
def looseColon (characters : List Char) : Except TimeFault (List Char) :=
  .ok (characters.dropWhile fun character => character == ':' || isBlank character)

/-- The letters UTC in any case stand for no offset. -/
def readRelaxedOffset (characters : List Char) : Except TimeFault (Int × List Char) :=
  if (characters.take 3).map Char.toUpper = ['U', 'T', 'C'] then .ok (0, characters.drop 3)
  else Scan.offset looseColon characters

def readRelaxedFields (characters : List Char) : Except TimeFault (Fields × List Char) := do
  let (year, rest) ← Scan.year (trimStart characters)
  Scan.inRange (-2147483648) 2147483647 year
  let rest ← spacedLiteral '-' rest
  let (month, rest) ← Scan.shortNumber rest
  Scan.inRange 1 12 month
  let rest ← spacedLiteral '-' rest
  let (day, rest) ← Scan.shortNumber rest
  Scan.inRange 1 31 day
  let rest ← dateTimeSeparator rest
  let (hour, rest) ← Scan.shortNumber rest
  Scan.inRange 0 23 hour
  let rest ← spacedLiteral ':' rest
  let (minute, rest) ← Scan.shortNumber rest
  Scan.inRange 0 59 minute
  let rest ← spacedLiteral ':' rest
  let (second, rest) ← Scan.shortNumber rest
  Scan.inRange 0 60 second
  let (nanosecond, rest) ← Scan.optionalFraction rest
  let (offset, rest) ← readRelaxedOffset (trimStart rest)
  return (⟨⟨year, month, day⟩, hour, minute, second, nanosecond, offset⟩, rest)

/-- Only blanks may follow the offset. -/
def readRelaxed (text : String) : Except TimeFault Instant := do
  let (fields, rest) ← readRelaxedFields text.toList
  if !(trimStart rest).isEmpty then throw TimeFault.trailing
  fields.instant

/-- The number is written in decimal with zeros in front up to the given width. -/
def padded (width value : Nat) : String :=
  let digits := toString value
  String.ofList (List.replicate (width - digits.length) '0') ++ digits

/-- Years of more or less than four digits carry a sign. -/
def yearText (year : Int) : String :=
  if 0 ≤ year ∧ year ≤ 9999 then padded 4 year.toNat
  else (if year < 0 then "-" else "+") ++ padded 4 year.natAbs

/-- Zero, three, six or nine places are written, the fewest that lose nothing. -/
def fractionText (nanosecond : Nat) : String :=
  if nanosecond = 0 then ""
  else if nanosecond % 1000000 = 0 then "." ++ padded 3 (nanosecond / 1000000)
  else if nanosecond % 1000 = 0 then "." ++ padded 6 (nanosecond / 1000)
  else "." ++ padded 9 nanosecond

/-- A leap second is written as second sixty of its minute. -/
def write (instant : Instant) (zone : String) : String :=
  let isLeap := 1000000000 ≤ instant.nanosecond
  let second := instant.secondOfDay % 60 + (if isLeap then 1 else 0)
  let nanosecond := if isLeap then instant.nanosecond - 1000000000 else instant.nanosecond
  yearText instant.date.year ++ "-" ++ padded 2 instant.date.month ++ "-" ++
    padded 2 instant.date.day ++ "T" ++ padded 2 (instant.secondOfDay / 3600) ++ ":" ++
    padded 2 (instant.secondOfDay / 60 % 60) ++ ":" ++ padded 2 second ++
    fractionText nanosecond ++ zone

/-- Documents name the zone by its letter. -/
def text (instant : Instant) : String := write instant "Z"

/-- Stored times name the zone by its offset. -/
def storedText (instant : Instant) : String := write instant "+00:00"

end AssetSearch.Time.Rfc3339

/-
This file reads the parts of dates and times from the front of a text, and says what is wrong with
a text that does not fit.
-/

import AssetSearch.Number.Numeral
import AssetSearch.Text.Blank
import AssetSearch.Text.ByteLength
import AssetSearch.Time.Instant

namespace AssetSearch.Time

open AssetSearch.Number
open AssetSearch.Text

inductive TimeFault where
  | tooShort
  | invalid
  | outOfRange
  | impossible
  | trailing
  deriving DecidableEq, Repr

def TimeFault.message : TimeFault → String
  | tooShort => "premature end of input"
  | invalid => "input contains invalid characters"
  | outOfRange => "input is out of range"
  | impossible => "no possible date and time matching input"
  | trailing => "trailing input"

namespace Scan

/-- A text counts as too short by its bytes, not by its characters. -/
def hasBytes (count : Nat) (characters : List Char) : Bool :=
  count ≤ byteLength characters

/-- At least the smaller and at most the larger number of digits is read, if there is a larger. -/
def number (least : Nat) (most : Option Nat) (characters : List Char) :
    Except TimeFault (Nat × List Char) :=
  if !hasBytes least characters then .error .tooShort
  else
    let run := characters.takeWhile Char.isDigit
    let digits := match most with
      | some most => run.take most
      | none => run
    if digits.length < least then .error .invalid
    else .ok (ofDigits digits, characters.drop digits.length)

/-- The text must go on with this character. -/
def literal (expected : Char) : List Char → Except TimeFault (List Char)
  | [] => .error .tooShort
  | character :: rest => if character = expected then .ok rest else .error .invalid

/-- Digits after the ninth are passed over. -/
def fraction (characters : List Char) : Except TimeFault (Nat × List Char) := do
  let (value, rest) ← number 1 (some 9) characters
  let places := characters.length - rest.length
  return (value * Nat.pow 10 (9 - places), rest.dropWhile Char.isDigit)

/-- Without a point the fraction is zero. -/
def optionalFraction : List Char → Except TimeFault (Nat × List Char)
  | '.' :: rest => fraction rest
  | characters => .ok (0, characters)

/-- The reader goes on only if this holds. -/
def check (isFine : Bool) (fault : TimeFault) : Except TimeFault Unit :=
  if isFine then .ok () else .error fault

/-- The value must lie in a closed range. -/
def inRange (least most value : Int) : Except TimeFault Unit :=
  if least ≤ value ∧ value ≤ most then .ok () else .error .outOfRange

/-- A sign allows any number of digits; without one a year has at most four. -/
def year (characters : List Char) : Except TimeFault (Int × List Char) :=
  match characters with
  | '-' :: rest => do
      let (value, rest) ← number 1 none rest
      return (-(value : Int), rest)
  | '+' :: rest => do
      let (value, rest) ← number 1 none rest
      return ((value : Int), rest)
  | _ => do
      let (value, rest) ← number 1 (some 4) characters
      return ((value : Int), rest)

/-- One or two digits are read after any blanks. -/
def shortNumber (characters : List Char) : Except TimeFault (Nat × List Char) :=
  number 1 (some 2) (trimStart characters)

/-- The sign of an offset is a plus, a hyphen or a minus sign. -/
def offsetSign : List Char → Except TimeFault (Bool × List Char)
  | [] => .error .tooShort
  | '+' :: rest => .ok (false, rest)
  | '-' :: rest => .ok (true, rest)
  | '−' :: rest => .ok (true, rest)
  | _ :: _ => .error .invalid

/-- Two digits are read, the first of them at most five when minutes are meant. -/
def twoDigits (characters : List Char) : Except TimeFault (Nat × Nat × List Char) :=
  if !hasBytes 2 characters then .error .tooShort
  else
    match characters with
    | first :: second :: rest =>
        if first.isDigit && second.isDigit then
          .ok (digitValue first, digitValue second, rest)
        else .error .invalid
    | _ => .error .invalid

/-- These are the minutes of an offset. -/
def offsetMinutes (characters : List Char) : Except TimeFault (Nat × List Char) := do
  let (tens, ones, rest) ← twoDigits characters
  if 5 < tens then throw TimeFault.outOfRange
  return (10 * tens + ones, rest)

/-- This is a signed offset in seconds, with a rule for what stands before the minutes. -/
def signedOffset (separator : List Char → Except TimeFault (List Char))
    (characters : List Char) : Except TimeFault (Int × List Char) := do
  let (negative, rest) ← offsetSign characters
  let (tens, ones, rest) ← twoDigits rest
  let rest ← separator rest
  let (minutes, rest) ← offsetMinutes rest
  let seconds : Int := (10 * tens + ones) * 3600 + minutes * 60
  return (if negative then -seconds else seconds, rest)

/-- The letter Z stands for no offset. -/
def offset (separator : List Char → Except TimeFault (List Char))
    (characters : List Char) : Except TimeFault (Int × List Char) :=
  match characters with
  | 'Z' :: rest => .ok (0, rest)
  | 'z' :: rest => .ok (0, rest)
  | _ => signedOffset separator characters

end Scan

/-- The second number sixty is the leap second after the one before it. -/
def Instant.ofClock (date : Date) (hour minute second nanosecond : Nat) : Instant :=
  if second = 60 then ⟨date, hour * 3600 + minute * 60 + 59, nanosecond + 1000000000⟩
  else ⟨date, hour * 3600 + minute * 60 + second, nanosecond⟩

end AssetSearch.Time

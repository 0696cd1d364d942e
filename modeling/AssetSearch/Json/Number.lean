/-
This file finds the number that a numeral stands for. Integers of 64 bits are kept as they are, and
every other number is rounded, from a leading part of its digits that fits in 64 bits.
-/

import AssetSearch.Json.Value
import AssetSearch.Number.Numeral

namespace AssetSearch.Json

open AssetSearch.Number

/-- This is the largest integer without a sign. -/
def largestNatural : Nat := Nat.pow 2 64 - 1

/-- A negative integer has at most this magnitude. -/
def largestNegated : Nat := Nat.pow 2 63

/-- Digits are added to the value as long as it fits in 64 bits, and the others are left over. -/
def absorbDigits (value : Nat) : List Char → Nat × List Char
  | [] => (value, [])
  | digit :: rest =>
      let next := 10 * value + digitValue digit
      if largestNatural < next then (value, digit :: rest) else absorbDigits next rest

/-- The powers of ten are rounded themselves. -/
def roundedTenTo (exponent : Nat) : Rat :=
  Binary64.round (tenTo exponent)

/-- No power of ten beyond this exponent is in the format. -/
def largestTenExponent : Nat := 308

/-- A number that is too large has no value. -/
def scaleUp? (significand : Rat) (exponent : Nat) : Option Rat :=
  if exponent ≤ largestTenExponent then
    let scaled := Binary64.multiply significand (roundedTenTo exponent)
    if scaled < Binary64.limit then some scaled else none
  else if significand = 0 then some 0
  else none

/-- A large exponent is divided out in two steps, and a larger one leaves nothing. -/
def scaleDown (significand : Rat) (exponent : Nat) : Rat :=
  if exponent ≤ largestTenExponent then Binary64.divide significand (roundedTenTo exponent)
  else
    let once := Binary64.divide significand (roundedTenTo largestTenExponent)
    let remaining := exponent - largestTenExponent
    if remaining ≤ largestTenExponent then Binary64.divide once (roundedTenTo remaining)
    else 0

def scale? (significand : Nat) (exponent : Int) : Option Rat :=
  let rounded := Binary64.round significand
  if 0 ≤ exponent then scaleUp? rounded exponent.toNat
  else some (scaleDown rounded (-exponent).toNat)

/-- These are the parts of a well formed numeral. -/
structure NumeralParts where
  negative : Bool
  whole : List Char
  fraction : Option (List Char)
  exponent : Option Int
  deriving Repr

def exponentOfText (characters : List Char) : Option Int :=
  match characters with
  | [] => none
  | _ :: rest =>
      let (negative, digits) := splitSign rest
      some (if negative then -(ofDigits digits : Int) else ofDigits digits)

def NumeralParts.ofText (characters : List Char) : NumeralParts :=
  let (negative, unsigned) := splitSign characters
  let whole := unsigned.takeWhile Char.isDigit
  match unsigned.dropWhile Char.isDigit with
  | '.' :: rest =>
      ⟨negative, whole, some (rest.takeWhile Char.isDigit),
        exponentOfText (rest.dropWhile Char.isDigit)⟩
  | rest => ⟨negative, whole, none, exponentOfText rest⟩

/-- The digits of the fraction go on where those of the whole part stopped. -/
def NumeralParts.magnitude? (parts : NumeralParts) : Option Rat :=
  let (wholeValue, passedOver) := absorbDigits 0 parts.whole
  let fraction := parts.fraction.getD []
  let (value, unused) := absorbDigits wholeValue fraction
  let places : Int := fraction.length - unused.length
  scale? value (passedOver.length - places + parts.exponent.getD 0)

/-- An integer has no point, no exponent and fits in 64 bits; zero with a minus is not one. -/
def NumeralParts.integer? (parts : NumeralParts) : Option Int :=
  if parts.fraction.isSome || parts.exponent.isSome then none
  else
    let value := ofDigits parts.whole
    if parts.negative then
      if value = 0 || largestNegated < value then none else some (-(value : Int))
    else if largestNatural < value then none
    else some value

/-- A numeral that is too large for the format stands for no number. -/
def JsonNumber.ofNumeral? (characters : List Char) : Option JsonNumber :=
  let parts := NumeralParts.ofText characters
  match parts.integer? with
  | some value => some (.integer value)
  | none => parts.magnitude?.map (.real parts.negative)

end AssetSearch.Json

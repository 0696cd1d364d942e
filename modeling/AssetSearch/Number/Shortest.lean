/-
This file writes a number with 53 binary digits with the fewest decimal digits that read back as
the same number.
-/

import AssetSearch.Number.Binary64

namespace AssetSearch.Number

/-- The value is `digits * 10 ^ exponent`. -/
structure Decimal where
  digits : Nat
  exponent : Int
  deriving DecidableEq, Repr

def Decimal.value (decimal : Decimal) : Rat :=
  decimal.digits * tenTo decimal.exponent

/-- All values between the bounds are rounded to the number in their middle. -/
structure RoundingInterval where
  lower : Rat
  upper : Rat
  includesEnds : Bool

/-- Below a power of two the numbers stand twice as close. -/
def RoundingInterval.around (value : Rat) : RoundingInterval :=
  let exponent := Binary64.unitExponent value
  let unit := twoTo exponent
  let mantissa := (value / unit).floor
  let below := if mantissa = Nat.pow 2 52 ∧ -1074 < exponent then unit / 4 else unit / 2
  ⟨value - below, value + unit / 2, mantissa % 2 = 0⟩

def RoundingInterval.contains (interval : RoundingInterval) (value : Rat) : Bool :=
  if interval.includesEnds then interval.lower ≤ value && value ≤ interval.upper
  else interval.lower < value && value < interval.upper

/-- For a positive value this is the largest exponent whose power of ten is not above it. -/
def decimalExponent (value : Rat) : Int :=
  let estimate := binaryExponent value * 30103 / 100000
  if value < tenTo estimate then estimate - 1
  else if tenTo (estimate + 1) ≤ value then estimate + 1
  else estimate

/-- Of the two neighbours on the grid the nearer one that reads back is taken. -/
def nearestOnGrid? (value : Rat) (interval : RoundingInterval) (exponent : Int) :
    Option Decimal :=
  let scaled := value / tenTo exponent
  let nearest := roundHalfEven scaled
  let below := scaled.floor
  let candidates := [nearest, below, below + 1]
  (candidates.map fun digits => (⟨digits.toNat, exponent⟩ : Decimal)).find? fun decimal =>
    interval.contains decimal.value

/-- Seventeen digits always suffice. -/
def shortestDecimal (value : Rat) : Decimal :=
  let interval := RoundingInterval.around value
  let leading := decimalExponent value
  let attempt (place : Nat) := nearestOnGrid? value interval (leading - place)
  match (List.range 17).findSome? attempt with
  | some decimal => decimal
  | none => ⟨0, 0⟩

/-- These settings fix where a number is written with its point in place and where it is not. -/
structure NumberLayout where
  largestPointPosition : Int
  smallestPointPosition : Int

/-- The point stands at most sixteen digits to the right and four zeros to the left. -/
def numberLayout : NumberLayout := ⟨16, -5⟩

def zeros (count : Int) : String :=
  String.ofList (List.replicate count.toNat '0')

/-- Trailing zeros of the digits count as part of the exponent. -/
def Decimal.text (decimal : Decimal) : String :=
  let digits := toString decimal.digits
  let count : Int := digits.length
  let point := count + decimal.exponent
  if 0 ≤ decimal.exponent && point ≤ numberLayout.largestPointPosition then
    digits ++ zeros decimal.exponent ++ ".0"
  else if 0 < point && point ≤ numberLayout.largestPointPosition then
    String.ofList (digits.toList.take point.toNat) ++ "." ++
      String.ofList (digits.toList.drop point.toNat)
  else if numberLayout.smallestPointPosition < point && point ≤ 0 then
    "0." ++ zeros (-point) ++ digits
  else
    let mark := "e" ++ toString (point - 1)
    match digits.toList with
    | [] => mark
    | [digit] => String.ofList [digit] ++ mark
    | digit :: later => String.ofList [digit] ++ "." ++ String.ofList later ++ mark

/-- Zero keeps its sign. -/
def realText (negative : Bool) (magnitude : Rat) : String :=
  let unsigned := if magnitude ≤ 0 then "0.0" else (shortestDecimal magnitude).text
  if negative then "-" ++ unsigned else unsigned

end AssetSearch.Number

/-
This file reads decimal numerals and tells the finite ones, for a number format with 53 binary
digits, from those that are too large.
-/

namespace AssetSearch.Number

/-- The numeral stands for `significand * 10 ^ scale`. -/
structure Numeral where
  negative : Bool
  significand : Nat
  scale : Int
  deriving DecidableEq, Repr

/-- This is the value of a decimal digit. -/
def digitValue (digit : Char) : Nat :=
  digit.toNat - '0'.toNat

/-- The digits are read in base ten, the first one counting most. -/
def ofDigits (digits : List Char) : Nat :=
  digits.foldl (fun value digit => 10 * value + digitValue digit) 0

def dropPlus : List Char → List Char
  | '+' :: digits => digits
  | digits => digits

/-- A number is written in decimal digits with an optional plus, and has an upper end. -/
def ofDecimal? (largest : Nat) (text : String) : Option Nat :=
  let digits := dropPlus text.toList
  if digits.isEmpty || !digits.all Char.isDigit then none
  else
    let value := ofDigits digits
    if largest < value then none else some value

/-- An exponent of five or more digits keeps only the digits that reach this bound. -/
def exponentBound : Nat := 65536

def ofExponentDigits (digits : List Char) : Nat :=
  digits.foldl
    (fun value digit => if value < exponentBound then 10 * value + digitValue digit else value) 0

/-- The sign is optional and is negative for a minus only. -/
def splitSign : List Char → Bool × List Char
  | '-' :: rest => (true, rest)
  | '+' :: rest => (false, rest)
  | characters => (false, characters)

/-- Nothing, or the letter e with an optional sign and at least one digit. -/
def readExponent? : List Char → Option Int
  | [] => some 0
  | mark :: rest =>
      if mark = 'e' || mark = 'E' then
        let (negative, digits) := splitSign rest
        if digits.isEmpty || !digits.all Char.isDigit then none
        else
          let magnitude : Int := ofExponentDigits digits
          some (if negative then -magnitude else magnitude)
      else none

/-- The characters after a leading point are the fraction, followed by the exponent part. -/
def splitFraction : List Char → List Char × List Char
  | '.' :: rest => (rest.takeWhile Char.isDigit, rest.dropWhile Char.isDigit)
  | characters => ([], characters)

/-- A numeral needs a digit before or after the point. -/
def Numeral.ofText? (characters : List Char) : Option Numeral :=
  let (negative, unsigned) := splitSign characters
  let whole := unsigned.takeWhile Char.isDigit
  let (fraction, exponentPart) := splitFraction (unsigned.dropWhile Char.isDigit)
  if whole.isEmpty && fraction.isEmpty then none
  else
    (readExponent? exponentPart).map fun exponent =>
      ⟨negative, ofDigits (whole ++ fraction), exponent - fraction.length⟩

/-- Numbers from this bound on are rounded to infinity. -/
def overflowBound : Nat := Nat.pow 2 1024 - Nat.pow 2 970

/-- The comparison is exact, in natural numbers. -/
def Numeral.isFinite (numeral : Numeral) : Bool :=
  if numeral.significand = 0 then true
  else if 0 ≤ numeral.scale then
    numeral.significand * Nat.pow 10 numeral.scale.toNat < overflowBound
  else
    numeral.significand < overflowBound * Nat.pow 10 (-numeral.scale).toNat

/-- The text is a decimal numeral and the number it stands for is not too large. -/
def isFiniteNumeral (characters : List Char) : Bool :=
  match Numeral.ofText? characters with
  | some numeral => numeral.isFinite
  | none => false

end AssetSearch.Number

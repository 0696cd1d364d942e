/-
This file rounds rational numbers to the numbers with 53 binary digits, to nearest and with ties to
even. The numbers are kept as rationals, so that every operation is exact before it is rounded.
-/

namespace AssetSearch.Number

/-- This is the power of two with an integer exponent. -/
def twoTo (exponent : Int) : Rat :=
  if 0 ≤ exponent then (2 : Rat) ^ exponent.toNat else 1 / (2 : Rat) ^ (-exponent).toNat

def tenTo (exponent : Int) : Rat :=
  if 0 ≤ exponent then (10 : Rat) ^ exponent.toNat else 1 / (10 : Rat) ^ (-exponent).toNat

/-- Exactly between two integers the even one is taken. -/
def roundHalfEven (value : Rat) : Int :=
  let below := value.floor
  let excess := value - below
  if excess < 1 / 2 then below
  else if 1 / 2 < excess then below + 1
  else if below % 2 = 0 then below
  else below + 1

/-- For a positive value this is the largest exponent whose power of two is not above it. -/
def binaryExponent (value : Rat) : Int :=
  let estimate : Int := (Nat.log2 value.num.toNat : Int) - Nat.log2 value.den
  if value < twoTo estimate then estimate - 1 else estimate

namespace Binary64

/-- The last of the 53 digits of a positive value counts this power of two. -/
def unitExponent (value : Rat) : Int :=
  max (binaryExponent value - 52) (-1074)

/-- Every nonnegative value has a nearest number, as if the exponents had no upper end. -/
def round (value : Rat) : Rat :=
  if value ≤ 0 then 0
  else
    let unit := twoTo (unitExponent value)
    roundHalfEven (value / unit) * unit

/-- Numbers from this one on do not exist in the format. -/
def limit : Rat := twoTo 1024

def add (left right : Rat) : Rat := round (left + right)

def multiply (left right : Rat) : Rat := round (left * right)

def divide (left right : Rat) : Rat := round (left / right)

end Binary64

end AssetSearch.Number

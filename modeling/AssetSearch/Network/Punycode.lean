/-
This file writes texts of any characters with letters, digits and hyphens by the method Punycode,
and reads them back.
-/

namespace AssetSearch.Network.Punycode

/-- The values of the digits are letters first and decimal digits after them. -/
def digitCharacter (digit : Nat) : Char :=
  if digit < 26 then Char.ofNat (97 + digit) else Char.ofNat (22 + digit)

def digitValue? (character : Char) : Option Nat :=
  if 'a' ≤ character && character ≤ 'z' then some (character.toNat - 97)
  else if 'A' ≤ character && character ≤ 'Z' then some (character.toNat - 65)
  else if character.isDigit then some (character.toNat - 22)
  else none

/-- A digit below the threshold of its position ends a number. -/
def threshold (position bias : Nat) : Nat := max 1 (min 26 (position - bias))

def scaleBias (delta position : Nat) : Nat :=
  if 455 < delta then scaleBias (delta / 35) (position + 36)
  else position + 36 * delta / (delta + 38)
termination_by delta
decreasing_by exact Nat.div_lt_self (by omega) (by omega)

/-- The bias follows the sizes of the numbers that were written. -/
def adaptBias (delta count : Nat) (isFirst : Bool) : Nat :=
  let halved := if isFirst then delta / 700 else delta / 2
  scaleBias (halved + halved / count) 0

/-- The digits of a number begin with the smallest place. -/
def numberDigits (bias position value : Nat) : List Char :=
  if value < threshold position bias then [digitCharacter value]
  else
    let base := 36 - threshold position bias
    let rest := value - threshold position bias
    digitCharacter (threshold position bias + rest % base) ::
      numberDigits bias (position + 36) (rest / base)
termination_by value
decreasing_by
  calc (value - threshold position bias) / (36 - threshold position bias)
      ≤ value - threshold position bias := Nat.div_le_self _ _
    _ < value := by
        unfold threshold at *
        omega

def isBasic (character : Char) : Bool := character.toNat < 128

structure Encoder where
  output : List Char
  delta : Nat
  bias : Nat
  handled : Nat

/-- One pass over the text writes a number for each occurrence of a code point. -/
def Encoder.scan (basicCount codePoint : Nat) (encoder : Encoder) (character : Char) : Encoder :=
  if character.toNat < codePoint then { encoder with delta := encoder.delta + 1 }
  else if character.toNat = codePoint then
    { output := encoder.output ++ numberDigits encoder.bias 36 encoder.delta
      delta := 0
      bias := adaptBias encoder.delta (encoder.handled + 1) (encoder.handled == basicCount)
      handled := encoder.handled + 1 }
  else encoder

/-- The code points that are not basic are handled in increasing order. -/
def Encoder.run (text : List Char) (basicCount : Nat) : List Nat → Nat → Encoder → Encoder
  | [], _, encoder => encoder
  | codePoint :: later, next, encoder =>
      let skipped :=
        { encoder with delta := encoder.delta + (codePoint - next) * (encoder.handled + 1) }
      let scanned := text.foldl (Encoder.scan basicCount codePoint) skipped
      run text basicCount later (codePoint + 1) { scanned with delta := scanned.delta + 1 }

def encode (text : List Char) : List Char :=
  let basic := text.filter isBasic
  let others := ((text.filter fun character => !isBasic character).map Char.toNat).mergeSort
  let encoder := Encoder.run text basic.length others.eraseDups 128 ⟨[], 0, 72, basic.length⟩
  basic ++ (if basic.isEmpty then [] else ['-']) ++ encoder.output

/-- The number is added to a start value, and the rest of the digits is returned with it. -/
def readNumber (bias : Nat) : List Char → (position weight value : Nat) → Option (Nat × List Char)
  | [], _, _, _ => none
  | character :: rest, position, weight, value =>
      match digitValue? character with
      | none => none
      | some digit =>
          if digit < threshold position bias then some (value + digit * weight, rest)
          else
            readNumber bias rest (position + 36) (weight * (36 - threshold position bias))
              (value + digit * weight)

/-- Each number says where the next character stands, and which one it is. -/
def insertCharacters : (fuel : Nat) → List Char → (output : List Char) →
    (codePoint position bias : Nat) → Option (List Char)
  | _, [], output, _, _, _ => some output
  | 0, _ :: _, _, _, _, _ => none
  | fuel + 1, digits, output, codePoint, position, bias =>
      match readNumber bias digits 36 1 position with
      | none => none
      | some (value, rest) =>
          let count := output.length + 1
          let codePoint := codePoint + value / count
          if !Nat.isValidChar codePoint then none
          else
            let place := value % count
            insertCharacters fuel rest
              (output.take place ++ [Char.ofNat codePoint] ++ output.drop place)
              codePoint (place + 1) (adaptBias (value - position) count (position == 0))

/-- The last hyphen separates the basic characters from the numbers. -/
def decode? (text : List Char) : Option (List Char) :=
  let reversed := text.reverse
  let digits := (reversed.takeWhile (· != '-')).reverse
  let basic := ((reversed.dropWhile (· != '-')).drop 1).reverse
  if basic.all isBasic then insertCharacters digits.length digits basic 128 0 72 else none

end AssetSearch.Network.Punycode

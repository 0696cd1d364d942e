/-
This file writes characters as the hexadecimal values of their bytes, and reads them back.
-/

namespace AssetSearch.Network

/-- Letters of hexadecimal digits are capital. -/
def upperHexDigit (digit : Nat) : Char :=
  if digit < 10 then Char.ofNat (48 + digit) else Char.ofNat (55 + digit)

def percentByte (byte : UInt8) : List Char :=
  ['%', upperHexDigit (byte.toNat / 16), upperHexDigit (byte.toNat % 16)]

/-- Every byte of the encoded character is written. -/
def percentCharacter (character : Char) : List Char :=
  (String.utf8EncodeChar character).flatMap percentByte

/-- Only the characters that have to be encoded are. -/
def percentEncode (mustEncode : Char → Bool) (characters : List Char) : List Char :=
  characters.flatMap fun character =>
    if mustEncode character then percentCharacter character else [character]

/-- These characters mean themselves everywhere in a path or a query. -/
def isUnreserved (character : Char) : Bool :=
  character.isAlphanum || character = '-' || character = '_' || character = '.' ||
    character = '~'

/-- A text becomes a part of a path that contains no delimiter. -/
def encodeComponent (text : String) : String :=
  String.ofList (percentEncode (fun character => !isUnreserved character) text.toList)

def upperHexValue? (character : Char) : Option Nat :=
  if character.isDigit then some (character.toNat - 48)
  else if 'A' ≤ character && character ≤ 'F' then some (character.toNat - 55)
  else if 'a' ≤ character && character ≤ 'f' then some (character.toNat - 87)
  else none

/-- A percent sign without two digits after it means itself. -/
def percentDecode : List Char → List UInt8
  | '%' :: high :: low :: rest =>
      match upperHexValue? high, upperHexValue? low with
      | some highValue, some lowValue =>
          UInt8.ofNat (16 * highValue + lowValue) :: percentDecode rest
      | _, _ => String.utf8EncodeChar '%' ++ percentDecode (high :: low :: rest)
  | character :: rest => String.utf8EncodeChar character ++ percentDecode rest
  | [] => []

/-- The decoded bytes need not form a text. -/
def decodedText? (characters : List Char) : Option String :=
  String.fromUTF8? (ByteArray.mk (percentDecode characters).toArray)

end AssetSearch.Network

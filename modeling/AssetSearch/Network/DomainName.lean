/-
This file brings domain names into the form in which names are looked up: lower case, with the
labels that are not basic written in Punycode.
-/

import AssetSearch.Network.Percent
import AssetSearch.Network.Punycode
import AssetSearch.Text.Blank
import AssetSearch.Text.LetterCase

namespace AssetSearch.Network.DomainName

open AssetSearch.Text

/-- These characters leave no trace in a name. -/
def isIgnored (character : Char) : Bool :=
  let codePoint := character.toNat
  codePoint = 0xAD || codePoint = 0x200B || codePoint = 0x2060 || codePoint = 0xFEFF ||
    (0xFE00 ≤ codePoint && codePoint ≤ 0xFE0F)

/-- The full stops of some scripts separate labels too. -/
def isLabelSeparator (character : Char) : Bool :=
  let codePoint := character.toNat
  codePoint = 0x2E || codePoint = 0x3002 || codePoint = 0xFF0E || codePoint = 0xFF61

/-- Wide forms of basic characters stand for these. -/
def narrowed (character : Char) : Char :=
  if 0xFF01 ≤ character.toNat && character.toNat ≤ 0xFF5E then
    Char.ofNat (character.toNat - 0xFEE0)
  else character

def mapCharacter (character : Char) : List Char :=
  if isIgnored character then []
  else if isLabelSeparator character then ['.']
  else lowerOf (narrowed character)

/-- Delimiters of addresses, blanks and control characters cannot be in a name. -/
def isForbidden (character : Char) : Bool :=
  character.toNat ≤ 0x20 || (0x7F ≤ character.toNat && character.toNat ≤ 0x9F) ||
    isBlank character || "%#/:<>?@[\\]^|".toList.contains character

/-- A character that was decoded stands for itself. -/
def isSettled (character : Char) : Bool :=
  !isForbidden character && mapCharacter character = [character]

/-- A label that is in Punycode already must be the Punycode of a label that is not basic. -/
def isEncodedLabel (encoded : List Char) : Bool :=
  match Punycode.decode? encoded with
  | none => false
  | some decoded =>
      !decoded.all Punycode.isBasic && decoded.all isSettled &&
        Punycode.encode decoded = encoded

def labelMark : List Char := "xn--".toList

def encodeLabel? (label : List Char) : Option (List Char) :=
  if label.any isForbidden then none
  else if label.all Punycode.isBasic then
    if labelMark.isPrefixOf label && !isEncodedLabel (label.drop labelMark.length) then none
    else some label
  else some (labelMark ++ Punycode.encode label)

/-- Every label must have a form that can be looked up. -/
def normalize? (name : String) : Option String :=
  ((name.toList.flatMap mapCharacter).splitOn '.').mapM encodeLabel?
    |>.map fun labels => String.intercalate "." (labels.map String.ofList)

end AssetSearch.Network.DomainName

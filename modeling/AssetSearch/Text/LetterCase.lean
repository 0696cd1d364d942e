/-
This file maps texts to lower and upper case by the full mappings of Unicode, which may change the
length of a text and, for sigma alone, look at the letters around a character.
-/

import AssetSearch.Text.LetterCase.Context
import AssetSearch.Text.LetterCase.Lower
import AssetSearch.Text.LetterCase.Upper

namespace AssetSearch.Text

def isCased (character : Char) : Bool :=
  casedIntervals.contains character.toNat

def isCaseIgnorable (character : Char) : Bool :=
  caseIgnorableIntervals.contains character.toNat

/-- The nearest character that is not ignorable has a letter case. -/
def meetsCasedLetter (characters : List Char) : Bool :=
  match characters.dropWhile isCaseIgnorable with
  | [] => false
  | nearest :: _ => isCased nearest

/-- This is the lower case of a character that stands alone. -/
def lowerOf (character : Char) : List Char :=
  caseImage lowerRuns lowerExpansions character

/-- This is the upper case of a character. -/
def upperOf (character : Char) : List Char :=
  caseImage upperRuns upperExpansions character

/-- The reversed context holds the characters before the rest, the nearest one first. -/
def lowerAfter (reversedContext : List Char) : List Char → List Char
  | [] => []
  | character :: rest =>
      let image :=
        if character = 'Σ' then
          if meetsCasedLetter reversedContext && !meetsCasedLetter rest then ['ς'] else ['σ']
        else lowerOf character
      image ++ lowerAfter (character :: reversedContext) rest

/-- A sigma that ends a word becomes the final small sigma. -/
def lowerCase (characters : List Char) : List Char :=
  lowerAfter [] characters

def lowered (text : String) : String :=
  String.ofList (lowerCase text.toList)

end AssetSearch.Text

/-
This file fixes which characters are blank and removes them from both ends of a text.
-/

import AssetSearch.Text.Intervals

namespace AssetSearch.Text

/-- These are the code points with the Unicode property White_Space. -/
def blankIntervals : Intervals := [
  (0x9, 0xD), (0x20, 0x20), (0x85, 0x85), (0xA0, 0xA0), (0x1680, 0x1680), (0x2000, 0x200A),
  (0x2028, 0x2029), (0x202F, 0x202F), (0x205F, 0x205F), (0x3000, 0x3000)]

def isBlank (character : Char) : Bool :=
  blankIntervals.contains character.toNat

def trimStart (characters : List Char) : List Char :=
  characters.dropWhile isBlank

/-- The last character that is not blank ends the result. -/
def trimEnd (characters : List Char) : List Char :=
  (characters.reverse.dropWhile isBlank).reverse

def trim (characters : List Char) : List Char :=
  trimEnd (trimStart characters)

/-- This is the text without the blanks at its two ends. -/
def trimmed (text : String) : String :=
  String.ofList (trim text.toList)

end AssetSearch.Text

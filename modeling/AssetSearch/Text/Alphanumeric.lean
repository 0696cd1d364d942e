/-
This file tells letters and digits of all scripts from everything else.
-/

import AssetSearch.Text.Alphanumeric.Table

namespace AssetSearch.Text

/-- The character is alphabetic or has a numeric category. -/
def isAlphanumeric (character : Char) : Bool :=
  alphanumericIntervals.contains character.toNat

end AssetSearch.Text

/-
This file looks code points up in increasing lists of closed intervals.
-/

namespace AssetSearch.Text

/-- The intervals are closed, in increasing order and apart from each other. -/
abbrev Intervals := List (Nat × Nat)

/-- The search ends at the first interval that begins above the code point. -/
def Intervals.contains (codePoint : Nat) : Intervals → Bool
  | [] => false
  | (first, last) :: later =>
      if codePoint < first then false
      else if codePoint ≤ last then true
      else contains codePoint later

end AssetSearch.Text

/-
This file looks case mappings up in runs of code points that share one distance.
-/

namespace AssetSearch.Text

/-- Every `step`-th code point from `first` to `last` maps to the one `distance` above it. -/
structure CaseRun where
  first : Nat
  last : Nat
  step : Nat
  distance : Int

/-- The search ends at the first run that begins above the code point. -/
def CaseRun.image (codePoint : Nat) : List CaseRun → Nat
  | [] => codePoint
  | run :: later =>
      if codePoint < run.first then codePoint
      else if codePoint ≤ run.last then
        if (codePoint - run.first) % run.step = 0 then (codePoint + run.distance).toNat
        else codePoint
      else image codePoint later

/-- A code point with an expansion maps to it, and any other one to its image in the runs. -/
def caseImage (runs : List CaseRun) (expansions : List (Nat × List Nat))
    (character : Char) : List Char :=
  match expansions.lookup character.toNat with
  | some codePoints => codePoints.map Char.ofNat
  | none => [Char.ofNat (CaseRun.image character.toNat runs)]

end AssetSearch.Text

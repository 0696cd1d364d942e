/-
This file reads the value of a keyword pair as a condition on a field.
-/

import AssetSearch.Number.Numeral
import AssetSearch.Query.Filter
import AssetSearch.Text.Blank
import AssetSearch.Time.FilterDate

namespace AssetSearch.Query

open AssetSearch.Text

/-- A value is a number if it can be one, else a time if it can be one, else a text. -/
def FilterValue.ofText (characters : List Char) : FilterValue :=
  if Number.isFiniteNumeral characters then .number (String.ofList characters)
  else
    match Time.FilterDate.milliseconds? characters with
    | some milliseconds => .timestamp milliseconds
    | none => .text (String.ofList characters)

/-- One leading mark, less or greater, is taken off, together with the blanks after it. -/
def Condition.ofTrimmed : List Char → Condition
  | '<' :: rest => ⟨.less, .ofText (trim rest)⟩
  | '>' :: rest => ⟨.greater, .ofText (trim rest)⟩
  | characters => ⟨.equal, .ofText characters⟩

def Condition.ofValue (value : String) : Condition :=
  .ofTrimmed (trim value.toList)

end AssetSearch.Query

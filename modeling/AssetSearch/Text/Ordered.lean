/-
This file keeps lists of texts in increasing order of their code points, each text once.
-/

namespace AssetSearch.Text

/-- A text that is already present stays where it is. -/
def insertOrdered (text : String) : List String → List String
  | [] => [text]
  | first :: later =>
      if text < first then text :: first :: later
      else if text = first then first :: later
      else first :: insertOrdered text later

/-- These are the texts of a list in increasing order, each once. -/
def ordered (texts : List String) : List String :=
  texts.foldr insertOrdered []

end AssetSearch.Text

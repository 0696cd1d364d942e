/-
This file derives the keyword of a custom field from its name: the words of the name in lower
camel case.
-/

import AssetSearch.Text.Alphanumeric
import AssetSearch.Text.LetterCase

namespace AssetSearch.Catalog

open AssetSearch.Text

/-- An empty run of characters is no word. -/
def consWord (word : List Char) (words : List (List Char)) : List (List Char) :=
  if word.isEmpty then words else word :: words

/-- The first result goes on with a word that is open, and the second one follows it. -/
def wordsFrom : List Char → List Char × List (List Char)
  | [] => ([], [])
  | character :: rest =>
      let (word, later) := wordsFrom rest
      if isAlphanumeric character then (character :: word, later)
      else ([], consWord word later)

/-- The words of a name are its longest runs of letters and digits. -/
def words (name : List Char) : List (List Char) :=
  let (word, later) := wordsFrom name
  consWord word later

/-- The word is lowered, and then its first character alone is raised. -/
def capitalized (word : List Char) : List Char :=
  match lowerCase word with
  | [] => []
  | first :: rest => upperOf first ++ rest

/-- A slug that is still empty takes the lower case of the word, any other one goes on with a
capital. -/
def addWord (slug word : List Char) : List Char :=
  if slug.isEmpty then slug ++ lowerCase word else slug ++ capitalized word

/-- The words are added one after the other. -/
def slug (name : String) : String :=
  String.ofList ((words name.toList).foldl addWord [])

end AssetSearch.Catalog

/-
This file writes a text as a quoted literal of the filter language.
-/

namespace AssetSearch.Query

/-- A backslash stands before each quote and before each backslash. -/
def escapeCharacter (character : Char) : List Char :=
  if character = '\\' || character = '"' then ['\\', character] else [character]

def escape (characters : List Char) : List Char :=
  characters.flatMap escapeCharacter

def quote (characters : List Char) : List Char :=
  '"' :: escape characters ++ ['"']

/-- This is the literal that stands for the text in a filter. -/
def quotedLiteral (text : String) : String :=
  String.ofList (quote text.toList)

end AssetSearch.Query

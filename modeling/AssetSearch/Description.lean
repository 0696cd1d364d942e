/-
This file describes the parts of the program in texts for diagnostics.
-/

import AssetSearch.Index.Naming
import AssetSearch.Text.Escaped

namespace AssetSearch.Description

open AssetSearch.Index
open AssetSearch.Text

/-- The name of a part stands before its fields, and two dots stand for those left out. -/
def partText (name : String) (fields : List (String × String)) (isComplete : Bool) : String :=
  let written := fields.map fun field => field.1 ++ ": " ++ field.2
  let all := if isComplete then written else written ++ [".."]
  name ++ " \x7b " ++ String.intercalate ", " all ++ " \x7d"

/-- A catalog in memory has no path. -/
def catalog (path : Option String) : String :=
  let pathText := match path with
    | some path => "Some(" ++ escapedText path ++ ")"
    | none => "None"
  partText "SqliteCatalog" [("db_path", pathText)] true

def keywords : String := partText "KeywordSource" [] false

def naming (naming : Naming) : String :=
  partText "IndexNaming" [("prefix", escapedText naming.leading)] true

def search (names : Naming) : String :=
  partText "SearchService" [("naming", naming names)] false

def tracker (names : Naming) (taskLimit : Nat) : String :=
  partText "IndexTaskTracker"
    [("naming", naming names), ("task_limit", toString taskLimit)] false

def program (path : Option String) (names : Naming) (taskLimit : Nat) : String :=
  partText "StockroomApi"
    [("catalog", catalog path), ("search", search names), ("tracker", tracker names taskLimit)]
    true

end AssetSearch.Description

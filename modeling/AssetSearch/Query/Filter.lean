/-
This file holds filter terms and their text. A term compares a field with a number, a point in
time or a text, and a filter asks for all of its terms.
-/

import AssetSearch.Query.Literal

namespace AssetSearch.Query

inductive Comparison where
  | equal
  | less
  | greater
  deriving DecidableEq, Repr

def Comparison.mark : Comparison → Char
  | equal => '='
  | less => '<'
  | greater => '>'

def Comparison.ofMark? : Char → Option Comparison
  | '=' => some .equal
  | '<' => some .less
  | '>' => some .greater
  | _ => none

/-- A number keeps the digits it was typed with, and a time counts milliseconds. -/
inductive FilterValue where
  | number (numeral : String)
  | timestamp (milliseconds : Int)
  | text (content : String)
  deriving DecidableEq, Repr

/-- Only texts are quoted. -/
def FilterValue.literal : FilterValue → String
  | number numeral => numeral
  | timestamp milliseconds => toString milliseconds
  | text content => quotedLiteral content

structure Condition where
  comparison : Comparison
  value : FilterValue
  deriving DecidableEq, Repr

structure FilterTerm where
  field : String
  condition : Condition
  deriving DecidableEq, Repr

/-- One space stands on each side of the mark. -/
def FilterTerm.text (term : FilterTerm) : String :=
  term.field ++ " " ++ String.singleton term.condition.comparison.mark ++ " " ++
    term.condition.value.literal

/-- All the terms must hold. -/
def conjunction (terms : List String) : String :=
  String.intercalate " AND " terms

end AssetSearch.Query

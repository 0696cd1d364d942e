/-
This file compiles a query into free text, a filter and a kind of entity.
-/

import AssetSearch.Query.Condition
import AssetSearch.Query.Kind
import AssetSearch.Query.Piece

namespace AssetSearch.Query

open AssetSearch.Text

/-- A part that the query does not set is absent. -/
structure CompiledQuery where
  text : Option String
  filter : Option String
  kind : Option EntityKind
  deriving DecidableEq, Repr

/-- This is the part of a compiled query that an index understands. -/
structure IndexQuery where
  text : Option String
  filter : Option String
  deriving DecidableEq, Repr

def CompiledQuery.indexQuery (compiled : CompiledQuery) : IndexQuery :=
  ⟨compiled.text, compiled.filter⟩

/-- This is the text of a piece that is not a pair. -/
def Piece.freeText? : Piece → Option String
  | pair .. => none
  | text content _ => some content

/-- This is the filter term of a pair with another keyword than the kind keyword. -/
def Piece.term? : Piece → Option FilterTerm
  | pair keyword value _ =>
      if keyword = kindKeyword then none else some ⟨keyword, .ofValue value⟩
  | text .. => none

/-- This is the value of a pair with the kind keyword. -/
def Piece.kindValue? : Piece → Option String
  | pair keyword value _ => if keyword = kindKeyword then some value else none
  | text .. => none

def freeTexts (pieces : List Piece) : List String :=
  pieces.filterMap Piece.freeText?

def filterTerms (pieces : List Piece) : List FilterTerm :=
  pieces.filterMap Piece.term?

/-- The last pair with the kind keyword decides, also when its value names no kind. -/
def selectedKind (pieces : List Piece) : Option EntityKind :=
  (pieces.filterMap Piece.kindValue?).getLast?.bind EntityKind.ofValue?

/-- An empty list makes no text. -/
def joinNonempty (join : List String → String) (texts : List String) : Option String :=
  if texts.isEmpty then none else some (join texts)

namespace CompiledQuery

/-- Free texts are joined by single spaces. -/
def ofPieces (pieces : List Piece) : CompiledQuery :=
  ⟨joinNonempty (String.intercalate " ") (freeTexts pieces),
    joinNonempty conjunction ((filterTerms pieces).map FilterTerm.text),
    selectedKind pieces⟩

/-- A query without pairs is free text as it stands, without the blanks at its ends. -/
def ofPlain (query : String) : CompiledQuery :=
  let text := trimmed query
  ⟨if text.isEmpty then none else some text, none, none⟩

def ofReading : Reading → CompiledQuery
  | .plain query => ofPlain query
  | .pieces pieces => ofPieces pieces

def ofQuery (vocabulary : Vocabulary) (query : String) : CompiledQuery :=
  ofReading (Reading.ofQuery vocabulary query)

end CompiledQuery

end AssetSearch.Query

/-
This file names the kinds of entities that a search can be restricted to.
-/

import AssetSearch.Text.Blank
import AssetSearch.Text.LetterCase

namespace AssetSearch.Query

open AssetSearch.Text

inductive EntityKind where
  | asset
  | assetType
  | tag
  deriving DecidableEq, Repr

namespace EntityKind

/-- Searches and rebuilds visit the kinds in this order. -/
def all : List EntityKind := [asset, assetType, tag]

def name : EntityKind → String
  | asset => "asset"
  | assetType => "asset-type"
  | tag => "tag"

def ofName? (name : String) : Option EntityKind :=
  all.find? (·.name = name)

/-- Only the first occurrence of the separator becomes a hyphen. -/
def hyphenateFirst (separator : Char) : List Char → List Char
  | [] => []
  | character :: rest =>
      if character = separator then '-' :: rest else character :: hyphenateFirst separator rest

/-- The value is trimmed and lowered, and one space and one underscore may stand for the hyphen. -/
def ofValue? (value : String) : Option EntityKind :=
  let spelling := hyphenateFirst '_' (hyphenateFirst ' ' (lowerCase (trim value.toList)))
  if spelling = "asset".toList then some asset
  else if spelling = "asset-type".toList || spelling = "assettype".toList then some assetType
  else if spelling = "tag".toList then some tag
  else none

end EntityKind

end AssetSearch.Query

/-
This file holds the answer of an index to a search, and reads and writes index queries.
-/

import AssetSearch.Json.Record
import AssetSearch.Query.Compiled

namespace AssetSearch.Index

open AssetSearch.Json
open AssetSearch.Query

/-- The hits are documents of any form. -/
structure SearchResponse where
  hits : List Value
  estimatedTotalHits : Option Nat
  processingTimeMs : Nat
  deriving Repr

namespace SearchResponse

def empty : SearchResponse := ⟨[], none, 0⟩

def toJson (response : SearchResponse) : Value :=
  .object [
    ("hits", .list response.hits),
    ("estimatedTotalHits", .ofOption .ofNat response.estimatedTotalHits),
    ("processingTimeMs", .ofNat response.processingTimeMs)]

/-- The response and its list of hits are two levels of nesting. -/
def decodeHit : Decoder Value := Value.ofDocument? (nestingLimit - 2)

def decode : Decoder SearchResponse := fun document => do
  let fields ←
    Fields.ofDocument? ["hits", "estimatedTotalHits", "processingTimeMs"] document
  let hits ← fields.required "hits" (Decoder.list decodeHit)
  let total ← fields.withDefault "estimatedTotalHits" none Decoder.natural.optional
  let time ← fields.withDefault "processingTimeMs" 0 Decoder.natural
  return ⟨hits, total, time⟩

end SearchResponse

namespace IndexQuery

/-- Parts that are absent are left out. -/
def members (query : IndexQuery) : List (String × Value) :=
  Value.memberIfPresent "q" .text query.text ++ Value.memberIfPresent "filter" .text query.filter

def toJson (query : IndexQuery) : Value := .object (members query)

def decode : Decoder IndexQuery := fun document => do
  let fields ← Fields.ofDocument? ["q", "filter"] document
  let text ← fields.optional "q" Decoder.text
  let filter ← fields.optional "filter" Decoder.text
  return ⟨text, filter⟩

end IndexQuery

end AssetSearch.Index

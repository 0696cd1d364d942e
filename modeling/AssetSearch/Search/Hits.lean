/-
This file runs planned searches and collects the hits of each index.
-/

import AssetSearch.Index.Service
import AssetSearch.Search.Plan

namespace AssetSearch.Search

open AssetSearch.Index
open AssetSearch.Json
open AssetSearch.Query

structure KindHits where
  kind : EntityKind
  indexUid : String
  hits : List Value
  estimatedTotalHits : Option Nat
  deriving Repr

def KindHits.ofResponse (kind : EntityKind) (index : String) (response : SearchResponse) :
    KindHits :=
  ⟨kind, index, response.hits, response.estimatedTotalHits⟩

def KindHits.toJson (kindHits : KindHits) : Value :=
  .object [
    ("kind", .text kindHits.kind.name),
    ("indexUid", .text kindHits.indexUid),
    ("hits", .list kindHits.hits),
    ("estimatedTotalHits", .ofOption .ofNat kindHits.estimatedTotalHits)]

def indexPairToJson (index : EntityKind × String) : Value :=
  .list [.text index.1.name, .text index.2]

def Plan.toJson (plan : Plan) : Value :=
  .object [
    ("query", Index.IndexQuery.toJson plan.query),
    ("kind", .ofOption (fun kind => .text kind.name) plan.kind),
    ("indexes", .ofList indexPairToJson plan.indexes)]

/-- Every index of the plan is asked the same query. -/
def runPlan {Effect : Type → Type} [Monad Effect] (service : Service Effect) (limit : Nat)
    (plan : Plan) : Effect (Except Failure (List KindHits)) :=
  visitAll (fun (kind, index) => do
    let response ← service.search index plan.query limit
    return response.map (KindHits.ofResponse kind index)) plan.indexes

/-- Without a plan the service is not asked. -/
def search {Effect : Type → Type} [Monad Effect] (service : Service Effect)
    (catalog : KeywordCatalog) (naming : Naming) (teamId query : String) (limit : Nat) :
    Effect (Except Failure (List KindHits)) :=
  match plan catalog naming teamId query with
  | .error failure => return .error failure
  | .ok plan => runPlan service limit plan

end AssetSearch.Search

/-
This file holds the index service that is reached by requests.
-/

import AssetSearch.Index.Service
import AssetSearch.Network.Client
import AssetSearch.Network.Percent

namespace AssetSearch.Index.Remote

open AssetSearch.Json
open AssetSearch.Network
open AssetSearch.Query

/-- Names are encoded, so that a comma only separates them. -/
def tasksPath (indexes : List String) (limit : Nat) : String :=
  let start := "/tasks?limit=" ++ toString limit
  if indexes.isEmpty then start
  else start ++ "&indexUids=" ++ String.intercalate "," (indexes.map encodeComponent)

def indexPath (index rest : String) : String :=
  "/indexes/" ++ encodeComponent index ++ "/" ++ rest

def attributesBody (attributes : List String) : Value :=
  .object [("filterableAttributes", .ofList .text attributes)]

/-- The parts of the query that are present stand before the limit. -/
def searchBody (query : IndexQuery) (limit : Nat) : Value :=
  .object (IndexQuery.members query ++ [("limit", .ofNat limit)])

/-- Every call is one request, which may be sent more than once. -/
def service [UrlParser] {Effect : Type → Type} [Monad Effect] (client : Client Effect) :
    Service Effect where
  listTasks indexes limit :=
    client.send .get (tasksPath indexes limit) none TaskPage.decode
  updateAttributes index attributes :=
    client.send .patch (indexPath index "settings") (some (attributesBody attributes))
      TaskSummary.decode
  search index query limit :=
    client.send .post (indexPath index "search") (some (searchBody query limit))
      SearchResponse.decode

end AssetSearch.Index.Remote

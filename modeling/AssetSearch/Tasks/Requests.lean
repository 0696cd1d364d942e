/-
This file lists the tasks of a team and asks for its indexes to be rebuilt.
-/

import AssetSearch.Index.Service
import AssetSearch.Search.Plan

namespace AssetSearch.Tasks

open AssetSearch.Index
open AssetSearch.Search

/-- A listing has at most this many tasks unless something else is asked for. -/
def defaultTaskLimit : Nat := 50

/-- A listing of no tasks cannot be asked for. -/
def taskLimit (limit : Nat) : Nat := max limit 1

/-- All indexes of the team are named in one call. -/
def listTasks {Effect : Type → Type} [Monad Effect] (service : Service Effect) (naming : Naming)
    (limit : Nat) (teamId : String) : Effect (Except Failure (List IndexTask)) :=
  match naming.teamIndexes teamId with
  | .error failure => return .error failure
  | .ok indexes => service.listTasks (indexes.map Prod.snd) limit

/-- Every index has these attributes to filter by. -/
def baseAttributes : List String := ["kind", "assetTypeId", "tagIds", "createdAt", "updatedAt"]

/-- An attribute that is empty or present already is not added. -/
def addAttribute (attributes : List String) (slug : String) : List String :=
  if slug.isEmpty || attributes.contains slug then attributes else attributes ++ [slug]

/-- The base attributes stand first, and the keywords of the team follow. -/
def filterableAttributes (slugs : List String) : List String :=
  slugs.foldl addAttribute baseAttributes

/-- The team is checked before the catalog is asked, and the catalog before the service. -/
def rebuild {Effect : Type → Type} [Monad Effect] (service : Service Effect)
    (catalog : KeywordCatalog) (naming : Naming) (teamId : String) :
    Effect (Except Failure (List TaskSummary)) :=
  match naming.teamIndexes teamId with
  | .error failure => return .error failure
  | .ok indexes =>
      match catalog teamId with
      | .error failure => return .error failure
      | .ok slugs =>
          let attributes := filterableAttributes slugs
          visitAll (fun index => service.updateAttributes index attributes)
            (indexes.map Prod.snd)

end AssetSearch.Tasks

/-
This file says what an index service can do, in any monad in which its answers arrive.
-/

import AssetSearch.Failure
import AssetSearch.Index.Hits
import AssetSearch.Index.Task

namespace AssetSearch.Index

open AssetSearch.Query

/-- Every call is answered or fails. -/
structure Service (Effect : Type → Type) where
  listTasks : (indexes : List String) → (limit : Nat) → Effect (Except Failure (List IndexTask))
  updateAttributes :
    (index : String) → (attributes : List String) → Effect (Except Failure TaskSummary)
  search :
    (index : String) → (query : IndexQuery) → (limit : Nat) →
      Effect (Except Failure SearchResponse)

/-- The items are visited in order up to the first failure. Calls that are waited for together are
visited like this under the assumption that each of them is answered when it is first polled. -/
def visitAll {Effect : Type → Type} [Monad Effect] {Item Result : Type}
    (visit : Item → Effect (Except Failure Result)) :
    List Item → Effect (Except Failure (List Result))
  | [] => return .ok []
  | item :: later => do
      match ← visit item with
      | .error failure => return .error failure
      | .ok result =>
          match ← visitAll visit later with
          | .error failure => return .error failure
          | .ok results => return .ok (result :: results)

end AssetSearch.Index

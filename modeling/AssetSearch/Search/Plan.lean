/-
This file plans searches: the query of a team is compiled with the keywords that the team has now,
and the kind that it selects decides which indexes are searched.
-/

import AssetSearch.Index.Naming
import AssetSearch.Query.Compiled

namespace AssetSearch.Search

open AssetSearch.Index
open AssetSearch.Query

/-- A catalog tells the keywords of a team or fails. -/
abbrev KeywordCatalog := (teamId : String) → Except Failure (List String)

structure Plan where
  query : IndexQuery
  kind : Option EntityKind
  indexes : List (EntityKind × String)
  deriving DecidableEq, Repr

/-- Without a kind all indexes are searched. -/
def selectIndexes (kind : Option EntityKind) (indexes : List (EntityKind × String)) :
    List (EntityKind × String) :=
  match kind with
  | none => indexes
  | some kind => indexes.filter (·.1 = kind)

def Plan.ofCompiled (compiled : CompiledQuery) (indexes : List (EntityKind × String)) : Plan :=
  ⟨compiled.indexQuery, compiled.kind, selectIndexes compiled.kind indexes⟩

/-- The keywords that a query of the team may use now. -/
def teamVocabulary (catalog : KeywordCatalog) (teamId : String) : Except Failure Vocabulary :=
  (catalog teamId).map Vocabulary.ofSlugs

/-- The team is checked before the catalog is asked. -/
def plan (catalog : KeywordCatalog) (naming : Naming) (teamId query : String) :
    Except Failure Plan := do
  let indexes ← naming.teamIndexes teamId
  let vocabulary ← teamVocabulary catalog teamId
  return Plan.ofCompiled (CompiledQuery.ofQuery vocabulary query) indexes

end AssetSearch.Search

/-
This file holds the keyword names that a query may use.
-/

import AssetSearch.Text.Ordered

namespace AssetSearch.Query

/-- The keyword with this name selects a kind of entity. -/
def kindKeyword : String := "is"

/-- The names stand in increasing order of their code points, each once. -/
structure Vocabulary where
  names : List String
  deriving DecidableEq, Repr

namespace Vocabulary

/-- The empty name is never a keyword. -/
def insert (vocabulary : Vocabulary) (name : String) : Vocabulary :=
  if name.isEmpty then vocabulary else ⟨Text.insertOrdered name vocabulary.names⟩

/-- Every vocabulary holds the kind keyword. -/
def base : Vocabulary := ⟨[kindKeyword]⟩

def ofSlugs (slugs : List String) : Vocabulary :=
  slugs.foldl insert base

def contains (vocabulary : Vocabulary) (name : String) : Bool :=
  vocabulary.names.contains name

def size (vocabulary : Vocabulary) : Nat :=
  vocabulary.names.length

end Vocabulary

end AssetSearch.Query

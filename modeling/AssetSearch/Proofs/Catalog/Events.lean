/-
This file says what happens to a catalog in use: operations are performed, its file is opened again,
and other programs insert rows. An event concerns the rows with one identity at most, and rows of
texts stay rows of texts.
-/

import AssetSearch.Proofs.Catalog.Refinement

namespace AssetSearch.Catalog

inductive Event where
  | operation (operation : Operation)
  | reopened
  | inserted (row : Row)
  deriving DecidableEq, Repr

namespace Store

/-- An event that fails leaves the store as it was. -/
def after (store : Store) : Event → Store
  | .operation operation => (store.perform operation).2
  | .reopened => store.opened
  | .inserted row =>
      match store.insertRow row with
      | .error _ => store
      | .ok changed => changed

section

variable {rows next : List Row} {event : Event}

def HoldsTexts (store : Store) : Prop :=
  ∀ rows, store.table = some rows → ∀ row ∈ rows, row.HoldsTexts

end

end Store

end AssetSearch.Catalog

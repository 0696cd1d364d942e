/-
This file holds the catalog of custom fields: a table of rows with one row for each identity.
-/

import AssetSearch.Catalog.Row
import AssetSearch.Text.Ordered

namespace AssetSearch.Catalog

/-- Another program may have removed the table. Rows stand in the order of their insertion. -/
structure Store where
  table : Option (List Row)
  deriving DecidableEq, Repr

namespace Store

def empty : Store := ⟨some []⟩

/-- Opening a catalog creates its table if there is none. -/
def opened (store : Store) : Store := ⟨some (store.table.getD [])⟩

/-- Every operation on a missing table is a failure of the database. -/
def rows (store : Store) : Except Failure (List Row) :=
  match store.table with
  | some rows => .ok rows
  | none => .error (.database .engine)

def emptySlug (name : String) : Failure :=
  .validation "name" ("'" ++ name ++ "' has no letters or digits to form a keyword")

/-- A row with the same identity keeps its place and its time of creation. -/
def upsertRow (row : Row) : List Row → List Row
  | [] => [row]
  | first :: later =>
      if first.id = row.id then first.updatedBy row :: later else first :: upsertRow row later

/-- The team must not be blank, and the field needs a keyword. -/
def upsert (store : Store) (field : CustomField) : Except Failure Store :=
  if (Text.trimmed field.teamId).isEmpty then
    .error (.validation "team_id" "must not be empty")
  else if field.slug.isEmpty then .error (emptySlug field.name)
  else store.rows.map fun rows => ⟨some (upsertRow (Row.ofField field) rows)⟩

/-- The answer says whether there is a field with the identity. -/
def rename (store : Store) (id name : String) : Except Failure (Bool × Store) :=
  if (slug name).isEmpty then .error (emptySlug name)
  else
    store.rows.map fun rows =>
      (rows.any (·.id = .text id),
        ⟨some (rows.map fun row => if row.id = .text id then row.renamed name else row)⟩)

/-- The answer says whether there was a field with the identity. -/
def delete (store : Store) (id : String) : Except Failure (Bool × Store) :=
  store.rows.map fun rows =>
    (rows.any (·.id = .text id), ⟨some (rows.filter fun row => row.id ≠ .text id)⟩)

def get (store : Store) (id : String) : Except Failure (Option CustomField) := do
  let rows ← store.rows
  match rows.find? (·.id = .text id) with
  | none => return none
  | some row => return some (← row.field)

/-- The fields of a team stand in order, and the first row that cannot be read is the failure. -/
def list (store : Store) (teamId : String) : Except Failure (List CustomField) := do
  let rows ← store.rows
  ((rows.filter (·.teamId = .text teamId)).mergeSort Row.isNotAfter).mapM Row.field

/-- The keywords of a team stand in increasing order, each once, and none is empty. One that is no
text is a failure. -/
def slugs (store : Store) (teamId : String) : Except Failure (List String) := do
  let rows ← store.rows
  let inTeam := rows.filter fun row => row.teamId = .text teamId && row.slug ≠ .text ""
  let slugs ← inTeam.mapM (·.slug.read)
  return Text.ordered slugs

/-- Another program inserts a row, whose identity must be new or missing. -/
def insertRow (store : Store) (row : Row) : Except Failure Store := do
  let rows ← store.rows
  let isTaken := row.id ≠ .null && rows.any (·.id = row.id)
  if isTaken || !row.isComplete then throw (Failure.database .engine)
  return ⟨some (rows ++ [row])⟩

/-- Another program removes the table. -/
def withoutTable : Store := ⟨none⟩

end Store

end AssetSearch.Catalog

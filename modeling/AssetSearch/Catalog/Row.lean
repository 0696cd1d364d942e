/-
This file holds rows of the field table and reads them as custom fields.
-/

import AssetSearch.Catalog.Cell
import AssetSearch.Catalog.Field

namespace AssetSearch.Catalog

open AssetSearch.Time

/-- Another program may have written the row, so that its cells can hold anything. -/
structure Row where
  id : Cell
  teamId : Cell
  name : Cell
  slug : Cell
  fieldType : Cell
  createdAt : Cell
  deriving DecidableEq, Repr

/-- The texts of a row can be any, before the time and the type are read. -/
structure RowTexts where
  id : String
  teamId : String
  name : String
  slug : String
  fieldType : String
  createdAt : String
  deriving DecidableEq, Repr

namespace RowTexts

def ofField (field : CustomField) : RowTexts :=
  ⟨field.id, field.teamId, field.name, field.slug, field.fieldType.name,
    Rfc3339.storedText field.createdAt⟩

/-- The time is read before the type. -/
def field (texts : RowTexts) : Except Failure CustomField :=
  match Rfc3339.readStrict texts.createdAt with
  | .error fault =>
      .error (.database (.described
        ("Invalid created_at for field " ++ texts.id ++ ": " ++ fault.message)))
  | .ok createdAt =>
      match FieldType.parse texts.fieldType with
      | .error failure => .error failure
      | .ok fieldType =>
          .ok ⟨texts.id, texts.teamId, texts.name, texts.slug, fieldType, createdAt⟩

/-- The row holds these texts. -/
def row (texts : RowTexts) : Row :=
  ⟨texts.id, texts.teamId, texts.name, texts.slug, texts.fieldType, texts.createdAt⟩

end RowTexts

namespace Row

/-- A custom field is stored as texts. -/
def ofField (field : CustomField) : Row := (RowTexts.ofField field).row

/-- All cells must be texts. -/
def texts (row : Row) : Except Failure RowTexts := do
  return ⟨← row.id.read, ← row.teamId.read, ← row.name.read, ← row.slug.read,
    ← row.fieldType.read, ← row.createdAt.read⟩

def field (row : Row) : Except Failure CustomField := do
  (← row.texts).field

/-- Rows are ordered by what they hold as their time and then as their name. -/
def isNotAfter (first second : Row) : Bool :=
  first.createdAt.place < second.createdAt.place ||
    (first.createdAt.place = second.createdAt.place && first.name.place ≤ second.name.place)

/-- Everything but the identity and the time of creation is taken from the other row. -/
def updatedBy (row other : Row) : Row :=
  { other with id := row.id, createdAt := row.createdAt }

def renamed (row : Row) (name : String) : Row :=
  { row with name := name, slug := Catalog.slug name }

/-- Nothing but the identity may be missing. -/
def isComplete (row : Row) : Bool :=
  !List.contains [row.teamId, row.name, row.slug, row.fieldType, row.createdAt] .null

end Row

end AssetSearch.Catalog

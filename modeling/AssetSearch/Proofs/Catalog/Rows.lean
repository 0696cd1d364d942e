/-
This file shows what becomes of a custom field that is stored as a row and read back. Only the year
of its creation can keep the row from being read.
-/

import AssetSearch.Catalog.Row
import AssetSearch.Proofs.Time.ReadTimes

namespace AssetSearch.Catalog

open AssetSearch.Time

/-- The name of a type is read as this type. -/
theorem FieldType.parse_name (fieldType : FieldType) : parse fieldType.name = .ok fieldType := by
  have lower : Text.lowered fieldType.name = fieldType.name := by
    cases fieldType <;> decide +kernel
  have found : ofName? fieldType.name = some fieldType := by
    cases fieldType <;> decide
  simp only [parse, lower, found]

/-- This is the field with its time as it is written. -/
def CustomField.asWritten (field : CustomField) : CustomField :=
  { field with createdAt := field.createdAt.asWritten }

theorem CustomField.asWritten_eq_self {field : CustomField}
    (ends : field.createdAt.LeapEndsMinute) : field.asWritten = field := by
  rw [asWritten, Instant.asWritten_eq_self ends]

namespace Row

/-- Every cell of the row is a text. -/
def HoldsTexts (row : Row) : Prop :=
  ∃ texts : RowTexts, texts.row = row

theorem HoldsTexts.slug {row : Row} (holds : row.HoldsTexts) : ∃ slug, row.slug = .text slug := by
  obtain ⟨texts, rfl⟩ := holds
  exact ⟨texts.slug, rfl⟩

theorem holdsTexts_ofField (field : CustomField) : (ofField field).HoldsTexts :=
  ⟨RowTexts.ofField field, rfl⟩

/-- Texts that were stored are read back. -/
@[simp] theorem field_row (texts : RowTexts) : texts.row.field = texts.field := rfl

@[simp] theorem ofField_id (field : CustomField) : (ofField field).id = .text field.id := rfl

/-- The row of a field does not tell its time from the time that is read from it. -/
theorem ofField_asWritten {field : CustomField} (valid : field.createdAt.IsValid) :
    ofField field.asWritten = ofField field := by
  simp only [ofField, RowTexts.ofField, CustomField.asWritten,
    Rfc3339.storedText_asWritten valid]

/-- An update of a stored field is stored like the field with the update. -/
theorem ofField_updatedBy (field other : CustomField) :
    (ofField field).updatedBy (ofField other) =
      ofField { other with id := field.id, createdAt := field.createdAt } := rfl

theorem ofField_renamed (field : CustomField) (name : String) :
    (ofField field).renamed name =
      ofField { field with name := name, slug := Catalog.slug name } := rfl

/-- A field that was created in a plain year is read as it was written. -/
theorem field_ofField {field : CustomField} (valid : field.createdAt.IsValid)
    (plain : field.createdAt.HasPlainYear) : (ofField field).field = .ok field.asWritten := by
  rw [ofField, field_row, RowTexts.field]
  simp only [RowTexts.ofField, Rfc3339.readStrict_storedText valid plain, FieldType.parse_name]
  rfl

/-- The failure names the field and says that its time has a character out of place. -/
def unreadable (id : String) : Failure :=
  .database (.described
    ("Invalid created_at for field " ++ id ++ ": " ++ TimeFault.invalid.message))

/-- A field that was created in another year cannot be read. -/
theorem field_ofField_signed {field : CustomField} (signed : ¬ field.createdAt.HasPlainYear) :
    (ofField field).field = .error (unreadable field.id) := by
  rw [ofField, field_row, RowTexts.field, unreadable]
  simp only [RowTexts.ofField, Rfc3339.readStrict_storedText_signed signed]

theorem field_ofField_isOk_iff {field : CustomField} (valid : field.createdAt.IsValid) :
    (∃ read, (ofField field).field = .ok read) ↔ field.createdAt.HasPlainYear := by
  constructor
  · intro given
    obtain ⟨read, isOk⟩ := given
    refine Classical.byContradiction fun signed => ?_
    rw [field_ofField_signed signed] at isOk
    cases isOk
  · intro plain
    exact ⟨field.asWritten, field_ofField valid plain⟩

end Row

end AssetSearch.Catalog

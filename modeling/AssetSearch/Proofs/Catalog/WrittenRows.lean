/-
This file shows which rows a catalog has after a field was written or renamed, and when a renamed
row can be read back.
-/

import AssetSearch.Proofs.Catalog.Lookup

namespace AssetSearch.Catalog

variable {store : Store} {id name : String} {rows : List Row}

/-- A row that is found by its identity is renamed. -/
theorem Row.renamedIf_found {row : Row} (found : rows.find? (·.id = .text id) = some row) :
    row.renamedIf id name = row.renamed name := by
  have same := List.find?_some found
  rw [decide_eq_true_eq] at same
  rw [renamedIf, if_pos same]

namespace Store

/-- A field is written exactly if it has a team and a keyword, and if there is a table. -/
theorem upsert_eq_ok_iff {written : Store} {field : CustomField} :
    store.upsert field = .ok written ↔
      Text.trimmed field.teamId ≠ "" ∧ field.slug ≠ "" ∧ ∃ rows, store.table = some rows ∧
        written = ⟨some (upsertRow (Row.ofField field) rows)⟩ := by
  simp only [upsert, String.isEmpty_iff]
  by_cases blank : Text.trimmed field.teamId = ""
  · simp [blank]
  by_cases noKeyword : field.slug = ""
  · simp [blank, noKeyword]
  rw [if_neg blank, if_neg noKeyword, Store.rows]
  cases store.table with
  | none => simp [Except.map]
  | some rows => simp [Except.map, blank, noKeyword, eq_comm]

theorem rename_eq (id : String) (isTable : store.table = some rows) (keyword : slug name ≠ "") :
    store.rename id name =
      .ok (rows.any (·.id = .text id), ⟨some (rows.map (Row.renamedIf id name))⟩) := by
  simp only [Store.rename, Store.rows, isTable, String.isEmpty_iff, keyword, if_false]
  rfl

theorem rename_isOk {known : Bool} {renamed : Store}
    (isOk : store.rename id name = .ok (known, renamed)) :
    slug name ≠ "" ∧ ∃ rows, store.table = some rows ∧
      renamed = ⟨some (rows.map (Row.renamedIf id name))⟩ := by
  rw [Store.rename] at isOk
  split at isOk
  · cases isOk
  · next keyword =>
      cases isTable : store.table with
      | none =>
          rw [Store.rows, isTable] at isOk
          cases isOk
      | some rows =>
          rw [Store.rows, isTable] at isOk
          obtain ⟨-, rfl⟩ := Prod.mk.inj (Except.ok.inj isOk)
          exact ⟨by simpa using keyword, rows, rfl, rfl⟩

/-- What is read after a renaming is the row with its new name. -/
theorem get_renamed (name : String) :
    (⟨some (rows.map (Row.renamedIf id name))⟩ : Store).get id =
      match rows.find? (·.id = .text id) with
      | none => .ok none
      | some row => (row.renamed name).field.map some := by
  have found := find?_renamed id name id rows
  cases isRow : rows.find? (·.id = .text id) with
  | none =>
      rw [isRow, Option.map_none] at found
      exact get_eq_none found
  | some row =>
      rw [isRow, Option.map_some, Row.renamedIf_found isRow] at found
      exact get_eq_field found

theorem get_renamed_error_iff (name : String) {failure : Failure} :
    (⟨some (rows.map (Row.renamedIf id name))⟩ : Store).get id = .error failure ↔
      ∃ row, rows.find? (·.id = .text id) = some row ∧
        (row.renamed name).field = .error failure := by
  rw [get_renamed]
  cases rows.find? (·.id = .text id) with
  | none => simp
  | some row =>
      cases read : (row.renamed name).field with
      | error other => simp [Except.map, read]
      | ok field => simp [Except.map, read]

theorem map_renamedIf_ne_iff :
    rows.map (Row.renamedIf id name) ≠ rows ↔
      ∃ row ∈ rows, row.id = .text id ∧ row.renamed name ≠ row := by
  have fixed : rows.map (Row.renamedIf id name) = rows ↔
      ∀ row ∈ rows, row.renamedIf id name = row := by
    conv_lhs => rhs; rw [← List.map_id rows]
    exact List.map_inj_left
  rw [ne_eq, fixed]
  simp only [Row.renamedIf, ite_eq_right_iff, not_forall, exists_prop, ne_eq]

end Store

end AssetSearch.Catalog

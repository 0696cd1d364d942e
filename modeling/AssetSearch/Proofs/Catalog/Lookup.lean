/-
This file shows what each change of a table does to the row with an identity. Rows with other
identities stay as they are, and no identity comes to have two rows. It also says which rows and
keywords are read for a team.
-/

import AssetSearch.Catalog.Store
import AssetSearch.Proofs.Text.Ordered
import Mathlib.Data.List.Nodup

namespace AssetSearch.Catalog

namespace Row

@[simp] theorem updatedBy_id (row other : Row) : (row.updatedBy other).id = row.id := rfl

/-- The row is renamed if it has the identity. -/
def renamedIf (id name : String) (row : Row) : Row :=
  if row.id = .text id then row.renamed name else row

@[simp] theorem renamedIf_id (id name : String) (row : Row) :
    (renamedIf id name row).id = row.id := by
  rw [renamedIf]
  split
  · rfl
  · rfl

end Row

namespace Store

section

variable {rows : List Row}

/-- This is what a row becomes that is written over an older one with the same identity. -/
def written (row : Row) : Option Row → Row
  | some older => older.updatedBy row
  | none => row

theorem find?_upsertRow_self (row : Row) (rows : List Row) :
    (upsertRow row rows).find? (·.id = row.id) =
      some (written row (rows.find? (·.id = row.id))) := by
  induction rows with
  | nil => simp [upsertRow, written]
  | cons first later inductionHypothesis =>
      by_cases same : first.id = row.id
      · simp [upsertRow, written, same]
      · simp only [upsertRow, same, if_false]
        rw [List.find?_cons_of_neg (by simpa using same),
          List.find?_cons_of_neg (by simpa using same)]
        exact inductionHypothesis

theorem find?_upsertRow_other {row : Row} {id : String} (other : id ≠ row.id) (rows : List Row) :
    (upsertRow row rows).find? (·.id = .text id) = rows.find? (·.id = .text id) := by
  induction rows with
  | nil => simp [upsertRow, other.symm]
  | cons first later inductionHypothesis =>
      by_cases same : first.id = row.id
      · simp [upsertRow, same, other.symm]
      · simp only [upsertRow, same, if_false, List.find?_cons, inductionHypothesis]

/-- An upserted row is new, takes the place of an older one, or is the row of another identity. -/
theorem of_mem_upsertRow {row upserted : Row} (inside : row ∈ upsertRow upserted rows) :
    row = upserted ∨ row ∈ rows ∨ ∃ older ∈ rows, row = older.updatedBy upserted := by
  induction rows with
  | nil => exact .inl (List.mem_singleton.mp inside)
  | cons first later inductionHypothesis =>
      rw [upsertRow] at inside
      split at inside
      · rcases List.mem_cons.mp inside with replaced | further
        · exact .inr (.inr ⟨first, List.mem_cons_self, replaced⟩)
        · exact .inr (.inl (List.mem_cons_of_mem _ further))
      · rcases List.mem_cons.mp inside with rfl | further
        · exact .inr (.inl List.mem_cons_self)
        · obtain new | kept | ⟨older, known, replaced⟩ := inductionHypothesis further
          · exact .inl new
          · exact .inr (.inl (List.mem_cons_of_mem _ kept))
          · exact .inr (.inr ⟨older, List.mem_cons_of_mem _ known, replaced⟩)

theorem find?_renamed (id name other : String) (rows : List Row) :
    (rows.map (Row.renamedIf id name)).find? (·.id = .text other) =
      (rows.find? (·.id = .text other)).map (Row.renamedIf id name) := by
  rw [List.find?_map]
  congr 2
  funext row
  simp

theorem find?_deleted_self (id : String) (rows : List Row) :
    (rows.filter fun row => row.id ≠ .text id).find? (·.id = .text id) = none := by
  simp [List.find?_eq_none]

theorem find?_deleted_other {id other : String} (different : other ≠ id) (rows : List Row) :
    (rows.filter fun row => row.id ≠ .text id).find? (·.id = .text other) =
      rows.find? (·.id = .text other) := by
  rw [List.find?_filter]
  congr 1
  funext row
  by_cases same : row.id = .text other
  · simp [same, different]
  · simp [same]

/-- An identity is new or has a row already. -/
theorem upsertRow_ids (row : Row) (rows : List Row) :
    (upsertRow row rows).map Row.id =
      if row.id ∈ rows.map Row.id then rows.map Row.id else rows.map Row.id ++ [row.id] := by
  induction rows with
  | nil => rfl
  | cons first later inductionHypothesis =>
      by_cases same : first.id = row.id
      · simp [upsertRow, same]
      · by_cases inside : row.id ∈ later.map Row.id
        · simp [upsertRow, same, inside, inductionHypothesis, Ne.symm same]
        · simp [upsertRow, same, inside, inductionHypothesis, Ne.symm same]

/-- No two rows have the same identity. -/
def HasUniqueIds (rows : List Row) : Prop :=
  (rows.map Row.id).Nodup

theorem HasUniqueIds.upsertRow (unique : HasUniqueIds rows) (row : Row) :
    HasUniqueIds (upsertRow row rows) := by
  rw [HasUniqueIds, upsertRow_ids]
  split
  · exact unique
  · next fresh =>
      rw [← List.concat_eq_append]
      exact List.Nodup.concat fresh unique

theorem HasUniqueIds.renamed (unique : HasUniqueIds rows) (id name : String) :
    HasUniqueIds (rows.map (Row.renamedIf id name)) := by
  have ids : Row.id ∘ Row.renamedIf id name = Row.id := funext (Row.renamedIf_id id name)
  rw [HasUniqueIds, List.map_map, ids]
  exact unique

theorem HasUniqueIds.deleted (unique : HasUniqueIds rows) (id : String) :
    HasUniqueIds (rows.filter fun row => row.id ≠ .text id) :=
  unique.sublist (List.filter_sublist.map Row.id)

/-- A row is the only one with its identity. -/
theorem HasUniqueIds.mem_iff (unique : HasUniqueIds rows) {row : Row} :
    row ∈ rows ↔ rows.find? (·.id = row.id) = some row := by
  constructor
  · intro inside
    induction rows with
    | nil => cases inside
    | cons first later inductionHypothesis =>
        obtain ⟨fresh, rest⟩ := List.nodup_cons.mp unique
        rcases List.mem_cons.mp inside with rfl | further
        · simp
        · have different : first.id ≠ row.id := by
            intro same
            rw [same] at fresh
            exact fresh (List.mem_map_of_mem further)
          rw [List.find?_cons_of_neg (by simpa using different)]
          exact inductionHypothesis rest further
  · exact List.mem_of_find?_eq_some

theorem get_eq_none {id : String} (missing : rows.find? (·.id = .text id) = none) :
    (⟨some rows⟩ : Store).get id = .ok none := by
  simp only [get, Store.rows, bind, Except.bind, missing]
  rfl

theorem get_eq_field {id : String} {row : Row} (found : rows.find? (·.id = .text id) = some row) :
    (⟨some rows⟩ : Store).get id = row.field.map some := by
  simp only [get, Store.rows, bind, Except.bind, found]
  rfl

theorem mem_listed {rows : List Row} {teamId : String} {row : Row} :
    row ∈ (rows.filter (·.teamId = .text teamId)).mergeSort Row.isNotAfter ↔
      row ∈ rows ∧ row.teamId = .text teamId := by
  rw [(List.mergeSort_perm _ _).mem_iff, List.mem_filter, decide_eq_true_eq]

end

end Store

end AssetSearch.Catalog

/-
This file shows which fields keep a catalog from being read, although it accepted them: those that
were created in a year that is written with a sign. One of them is enough for the list of its team.
-/

import AssetSearch.Proofs.Catalog.Refinement
import AssetSearch.Proofs.Results

namespace AssetSearch.Catalog

open AssetSearch.Time

namespace Represents

section

variable {rows : List Row} {map : FieldMap}

theorem get_isOk_iff (represents : Represents Instant.IsValid rows map) (id : String) :
    (∃ found, (⟨some rows⟩ : Store).get id = .ok found) ↔
      ∀ field, map.lookup id = some field → field.createdAt.HasPlainYear := by
  cases bound : map.lookup id with
  | none =>
      have missing : rows.find? (·.id = .text id) = none := by
        rw [represents.lookup, bound, Option.map_none]
      rw [Store.get_eq_none missing]
      simp
  | some field =>
      simp only [Option.some.injEq, forall_eq']
      rw [Store.get_eq_field (represents.find?_eq bound),
        ← Row.field_ofField_isOk_iff (represents.created bound)]
      cases (Row.ofField field).field with
      | error failure => simp [Except.map]
      | ok read => simp [Except.map]

theorem get_signed (represents : Represents Instant.IsValid rows map) {id : String}
    {field : CustomField} (bound : map.lookup id = some field)
    (signed : ¬ field.createdAt.HasPlainYear) :
    (⟨some rows⟩ : Store).get id = .error (Row.unreadable id) := by
  rw [Store.get_eq_field (represents.find?_eq bound), Row.field_ofField_signed signed,
    represents.field_id bound]
  rfl

theorem list_isOk_iff (represents : Represents Instant.IsValid rows map) (teamId : String) :
    (∃ fields, (⟨some rows⟩ : Store).list teamId = .ok fields) ↔
      ∀ id field, map.lookup id = some field → field.teamId = teamId →
        field.createdAt.HasPlainYear := by
  have listed := mapM_isOk_iff Row.field
    ((rows.filter (·.teamId = .text teamId)).mergeSort Row.isNotAfter)
  refine listed.trans ?_
  constructor
  · intro readable id field bound team
    have listed := Store.mem_listed.mpr
      ⟨represents.ofField_mem bound, congrArg Cell.text team⟩
    exact (Row.field_ofField_isOk_iff (represents.created bound)).mp (readable _ listed)
  · intro plain row inside
    obtain ⟨stored, team⟩ := Store.mem_listed.mp inside
    obtain ⟨id, field, bound, rfl⟩ := represents.mem_iff.mp stored
    exact (Row.field_ofField_isOk_iff (represents.created bound)).mpr
      (plain id field bound (Cell.text.inj team))

end

end Represents

namespace Store

/-- After any run from the empty catalog a field can be read exactly if the year of its creation is
written without a sign, and a team can be listed exactly if this holds for all of its fields. -/
theorem performAll_readable_iff (operations : List Operation)
    (valid : ∀ field, .upsert field ∈ operations → field.createdAt.IsValid) :
    (∀ id, (∃ found, (Store.empty.performAll operations).2.get id = .ok found) ↔
      ∀ field, (operations.foldl FieldMap.after ∅).lookup id = some field →
        field.createdAt.HasPlainYear) ∧
    (∀ teamId, (∃ fields, (Store.empty.performAll operations).2.list teamId = .ok fields) ↔
      ∀ id field, (operations.foldl FieldMap.after ∅).lookup id = some field →
        field.teamId = teamId → field.createdAt.HasPlainYear) ∧
    ∀ id field, (operations.foldl FieldMap.after ∅).lookup id = some field →
      ¬ field.createdAt.HasPlainYear →
        (Store.empty.performAll operations).2.get id = .error (Row.unreadable id) := by
  obtain ⟨rows, last, represents⟩ := (Represents.empty Instant.IsValid).performAll valid
  have final : (Store.empty.performAll operations).2 = ⟨some rows⟩ := last
  rw [final]
  exact ⟨represents.get_isOk_iff, represents.list_isOk_iff,
    fun id field bound signed => represents.get_signed bound signed⟩

/-- This field was created in a year of five digits. -/
def farField : CustomField :=
  ⟨"f-1", "team-1", "Serial", "serial", .text, ⟨⟨12024, 1, 1⟩, 0, 0⟩⟩

theorem performAll_readable_iff_farField :
    (∀ field, .upsert field ∈ [Operation.upsert farField] → field.createdAt.IsValid) ∧
      ¬ ∃ fields,
        (Store.empty.performAll [.upsert farField]).2.list "team-1" = .ok fields := by
  have valid : ∀ field, .upsert field ∈ [Operation.upsert farField] →
      field.createdAt.IsValid := by
    intro field inside
    rw [List.mem_singleton, Operation.upsert.injEq] at inside
    rw [inside]
    exact ⟨by decide, by decide, by decide⟩
  refine ⟨valid, ?_⟩
  obtain ⟨_, listed, _⟩ := performAll_readable_iff [.upsert farField] valid
  rw [listed]
  intro plain
  have bound : ([Operation.upsert farField].foldl FieldMap.after ∅).lookup "f-1" =
      some farField := by
    decide +kernel
  exact absurd (plain "f-1" farField bound rfl) (by decide)

/-- The field is accepted, and then neither it nor its team can be read. -/
theorem farField_unreadable :
    (Store.empty.performAll [.upsert farField, .get "f-1", .list "team-1"]).1 =
      [.done, .failed (Row.unreadable "f-1"), .failed (Row.unreadable "f-1")] := by
  decide +kernel

end Store

end AssetSearch.Catalog

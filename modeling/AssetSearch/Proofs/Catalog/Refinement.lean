/-
This file shows that the rows of a catalog represent a finite map of custom fields. Every change of
the table follows the change of the map, whatever is done to the catalog one after the other.
-/

import AssetSearch.Proofs.Catalog.FieldMap
import AssetSearch.Proofs.Catalog.Lookup
import AssetSearch.Proofs.Catalog.Rows

namespace AssetSearch.Catalog

open AssetSearch.Text
open AssetSearch.Time

/-- Every row is that of a field, every field of the map is the row with its identity, and it was
accepted as it is. -/
structure Represents (isAccepted : Instant → Prop) (rows : List Row) (map : FieldMap) : Prop where
  isField : ∀ row ∈ rows, ∃ field, Row.ofField field = row
  unique : Store.HasUniqueIds rows
  lookup : ∀ id, rows.find? (·.id = .text id) = (map.lookup id).map Row.ofField
  keyword : ∀ {id field}, map.lookup id = some field → field.slug ≠ ""
  created : ∀ {id field}, map.lookup id = some field → isAccepted field.createdAt

namespace Represents

section

variable {isAccepted : Instant → Prop} {rows : List Row} {map : FieldMap}

theorem empty (isAccepted : Instant → Prop) : Represents isAccepted [] ∅ where
  isField := by simp
  unique := List.nodup_nil
  lookup := by
    intro id
    rw [Finmap.lookup_empty]
    rfl
  keyword := by
    intro id field given
    rw [Finmap.lookup_empty] at given
    cases given
  created := by
    intro id field given
    rw [Finmap.lookup_empty] at given
    cases given

theorem find?_eq (represents : Represents isAccepted rows map) {id : String} {field : CustomField}
    (bound : map.lookup id = some field) :
    rows.find? (·.id = .text id) = some (Row.ofField field) := by
  rw [represents.lookup, bound, Option.map_some]

theorem ofField_mem (represents : Represents isAccepted rows map) {id : String}
    {field : CustomField} (bound : map.lookup id = some field) : Row.ofField field ∈ rows :=
  List.mem_of_find?_eq_some (represents.find?_eq bound)

theorem field_id (represents : Represents isAccepted rows map) {id : String} {field : CustomField}
    (bound : map.lookup id = some field) : field.id = id := by
  have found := List.find?_some (represents.find?_eq bound)
  rw [decide_eq_true_eq, Row.ofField_id, Cell.text.injEq] at found
  exact found

theorem mem_iff (represents : Represents isAccepted rows map) {row : Row} :
    row ∈ rows ↔ ∃ id field, map.lookup id = some field ∧ Row.ofField field = row := by
  constructor
  · intro inside
    obtain ⟨field, rfl⟩ := represents.isField row inside
    have found := represents.unique.mem_iff.mp inside
    rw [Row.ofField_id, represents.lookup, Option.map_eq_some_iff] at found
    exact ⟨field.id, found⟩
  · intro given
    obtain ⟨id, field, bound, rfl⟩ := given
    exact represents.ofField_mem bound

/-- The map may only change in what it binds to one identity. -/
theorem rebound (represents : Represents isAccepted rows map) (id : String)
    {changed : List Row} {next : FieldMap}
    (isField : ∀ row ∈ changed, ∃ field, Row.ofField field = row)
    (unique : Store.HasUniqueIds changed)
    (others : ∀ other, other ≠ id →
      changed.find? (·.id = .text other) = rows.find? (·.id = .text other) ∧
        next.lookup other = map.lookup other)
    (found : changed.find? (·.id = .text id) = (next.lookup id).map Row.ofField)
    (bound : ∀ field, next.lookup id = some field → field.slug ≠ "" ∧ isAccepted field.createdAt) :
    Represents isAccepted changed next where
  isField := isField
  unique := unique
  lookup := by
    intro other
    by_cases same : other = id
    · rw [same]
      exact found
    · rw [(others other same).1, (others other same).2]
      exact represents.lookup other
  keyword := by
    intro other field given
    by_cases same : other = id
    · rw [same] at given
      exact (bound field given).1
    · rw [(others other same).2] at given
      exact represents.keyword given
  created := by
    intro other field given
    by_cases same : other = id
    · rw [same] at given
      exact (bound field given).2
    · rw [(others other same).2] at given
      exact represents.created given

theorem upsert (represents : Represents isAccepted rows map) {field : CustomField}
    (keyword : field.slug ≠ "") (created : isAccepted field.createdAt) :
    Represents isAccepted (Store.upsertRow (Row.ofField field) rows)
      (map.insert field.id (field.replacing (map.lookup field.id))) := by
  have others : ∀ other, other ≠ field.id →
      (Store.upsertRow (Row.ofField field) rows).find? (·.id = .text other) =
          rows.find? (·.id = .text other) ∧
        (map.insert field.id (field.replacing (map.lookup field.id))).lookup other =
          map.lookup other := by
    intro other different
    have otherCell : Cell.text other ≠ (Row.ofField field).id := by simpa using different
    exact ⟨Store.find?_upsertRow_other otherCell rows, Finmap.lookup_insert_of_ne map different⟩
  have isField : ∀ row ∈ Store.upsertRow (Row.ofField field) rows,
      ∃ field, Row.ofField field = row := by
    intro row inside
    obtain rfl | kept | ⟨older, known, rfl⟩ := Store.of_mem_upsertRow inside
    · exact ⟨field, rfl⟩
    · exact represents.isField row kept
    · obtain ⟨former, rfl⟩ := represents.isField older known
      exact ⟨_, (Row.ofField_updatedBy former field).symm⟩
  have found := Store.find?_upsertRow_self (Row.ofField field) rows
  rw [Row.ofField_id, represents.lookup] at found
  refine represents.rebound field.id isField (represents.unique.upsertRow _) others ?_ ?_
  · rw [found, Finmap.lookup_insert]
    cases older : map.lookup field.id with
    | none => rfl
    | some former =>
        simp only [Option.map_some, Store.written, Row.ofField_updatedBy,
          represents.field_id older, CustomField.replacing]
  · intro replaced given
    rw [Finmap.lookup_insert, Option.some.injEq] at given
    subst given
    cases older : map.lookup field.id with
    | none => exact ⟨keyword, created⟩
    | some former =>
        have accepted := represents.created older
        exact ⟨keyword, accepted⟩

theorem rename (represents : Represents isAccepted rows map) {name : String}
    (keyword : slug name ≠ "") {id : String} {field : CustomField}
    (bound : map.lookup id = some field) :
    Represents isAccepted (rows.map (Row.renamedIf id name))
      (map.insert id (field.renamed name)) := by
  have isField : ∀ row ∈ rows.map (Row.renamedIf id name), ∃ field, Row.ofField field = row := by
    intro row inside
    obtain ⟨original, known, rfl⟩ := List.mem_map.mp inside
    obtain ⟨former, rfl⟩ := represents.isField original known
    rw [Row.renamedIf]
    split
    · exact ⟨_, (Row.ofField_renamed former name).symm⟩
    · exact ⟨former, rfl⟩
  refine represents.rebound id isField (represents.unique.renamed id name) ?_ ?_ ?_
  · intro other different
    refine ⟨?_, Finmap.lookup_insert_of_ne map different⟩
    rw [Store.find?_renamed]
    cases found : rows.find? (·.id = .text other) with
    | none => rfl
    | some row =>
        have identity := List.find?_some found
        simp only [decide_eq_true_eq] at identity
        rw [Option.map_some, Row.renamedIf, if_neg (by rw [identity]; simpa using different)]
  · rw [Store.find?_renamed, represents.find?_eq bound, Finmap.lookup_insert, Option.map_some,
      Row.renamedIf, Row.ofField_id, if_pos (congrArg Cell.text (represents.field_id bound)),
      Row.ofField_renamed]
    rfl
  · intro renamed given
    rw [Finmap.lookup_insert, Option.some.injEq] at given
    subst given
    have accepted := represents.created bound
    exact ⟨keyword, accepted⟩

/-- A name that no row takes changes nothing. -/
theorem rename_none (represents : Represents isAccepted rows map) (name : String) {id : String}
    (free : map.lookup id = none) : rows.map (Row.renamedIf id name) = rows := by
  refine (List.map_congr_left fun row inside => ?_).trans (List.map_id rows)
  -- A row that would be renamed is bound by the map.
  obtain ⟨other, field, bound, rfl⟩ := represents.mem_iff.mp inside
  rw [Row.renamedIf, if_neg]
  · rfl
  · intro same
    rw [Row.ofField_id, represents.field_id bound, Cell.text.injEq] at same
    rw [same, free] at bound
    cases bound

theorem delete (represents : Represents isAccepted rows map) (id : String) :
    Represents isAccepted (rows.filter fun row => row.id ≠ .text id) (map.erase id) := by
  refine represents.rebound id
    (fun row inside => represents.isField row (List.mem_of_mem_filter inside))
    (represents.unique.deleted id) ?_ ?_ ?_
  · intro other different
    exact ⟨Store.find?_deleted_other different rows, Finmap.lookup_erase_ne different⟩
  · rw [Store.find?_deleted_self, Finmap.lookup_erase]
    rfl
  · intro field given
    rw [Finmap.lookup_erase] at given
    cases given

end

end Represents

namespace Store

@[simp] theorem answerReading_snd {Content : Type} (store : Store) (toAnswer : Content → Answer)
    (result : Except Failure Content) : (store.answerReading toAnswer result).2 = store := by
  cases result with
  | error failure => rfl
  | ok content => rfl

/-- A rejected operation fails in its validation and leaves the store as it was. -/
theorem perform_rejected {operation : Operation} (rejected : operation.IsRejected) (store : Store) :
    ∃ place message,
      store.perform operation = (.failed (.validation place message), store) := by
  cases operation with
  | upsert field =>
      by_cases blank : trimmed field.teamId = ""
      · refine ⟨"team_id", "must not be empty", ?_⟩
        simp only [perform, Store.upsert, String.isEmpty_iff, blank, if_true]
        rfl
      · have noKeyword : field.slug = "" := rejected.resolve_left blank
        refine ⟨"name", "'" ++ field.name ++ "' has no letters or digits to form a keyword", ?_⟩
        simp only [perform, Store.upsert, String.isEmpty_iff, blank, noKeyword, if_true, if_false]
        rfl
  | rename id name =>
      have noKeyword : slug name = "" := rejected
      refine ⟨"name", "'" ++ name ++ "' has no letters or digits to form a keyword", ?_⟩
      simp only [perform, Store.rename, String.isEmpty_iff, noKeyword, if_true]
      rfl
  | delete id => exact rejected.elim
  | get id => exact rejected.elim
  | list teamId => exact rejected.elim
  | slugs teamId => exact rejected.elim

theorem perform_upsert {field : CustomField} (accepted : ¬ (Operation.upsert field).IsRejected)
    (rows : List Row) :
    (⟨some rows⟩ : Store).perform (.upsert field) =
      (.done, ⟨some (upsertRow (Row.ofField field) rows)⟩) := by
  obtain ⟨notBlank, keyword⟩ := not_or.mp accepted
  simp only [perform, Store.upsert, String.isEmpty_iff, notBlank, keyword, if_false]
  rfl

theorem perform_rename {id name : String} (accepted : ¬ (Operation.rename id name).IsRejected)
    (rows : List Row) :
    (⟨some rows⟩ : Store).perform (.rename id name) =
      (.found (rows.any (·.id = .text id)), ⟨some (rows.map (Row.renamedIf id name))⟩) := by
  have keyword : slug name ≠ "" := accepted
  simp only [perform, Store.rename, String.isEmpty_iff, keyword, if_false]
  rfl

end Store

namespace Represents

section

variable {isAccepted : Instant → Prop} {rows : List Row} {map : FieldMap}

/-- Each operation does to the rows what it does to the map. -/
theorem perform (represents : Represents isAccepted rows map) {operation : Operation}
    (created : ∀ field, operation = .upsert field → isAccepted field.createdAt) :
    ∃ next, ((⟨some rows⟩ : Store).perform operation).2 = ⟨some next⟩ ∧
      Represents isAccepted next (map.after operation) := by
  rw [FieldMap.after.eq_def]
  by_cases rejected : operation.IsRejected
  · obtain ⟨place, message, same⟩ := Store.perform_rejected rejected ⟨some rows⟩
    rw [if_pos rejected, same]
    exact ⟨rows, rfl, represents⟩
  · rw [if_neg rejected]
    cases operation with
    | upsert field =>
        rw [Store.perform_upsert rejected]
        obtain ⟨_, keyword⟩ := not_or.mp rejected
        exact ⟨_, rfl, represents.upsert keyword (created field rfl)⟩
    | rename id name =>
        rw [Store.perform_rename rejected]
        refine ⟨_, rfl, ?_⟩
        cases bound : map.lookup id with
        | none =>
            simp only [bound]
            rw [represents.rename_none name bound]
            exact represents
        | some field =>
            simp only [bound]
            exact represents.rename rejected bound
    | delete id => exact ⟨_, rfl, represents.delete id⟩
    | get id => exact ⟨rows, Store.answerReading_snd _ _ _, represents⟩
    | list teamId => exact ⟨rows, Store.answerReading_snd _ _ _, represents⟩
    | slugs teamId => exact ⟨rows, Store.answerReading_snd _ _ _, represents⟩

theorem created_cons {operation : Operation} {later : List Operation}
    (created : ∀ field, .upsert field ∈ operation :: later → isAccepted field.createdAt) :
    (∀ field, operation = .upsert field → isAccepted field.createdAt) ∧
      ∀ field, .upsert field ∈ later → isAccepted field.createdAt := by
  constructor
  · intro field same
    exact created field (same ▸ List.mem_cons_self)
  · intro field inside
    exact created field (List.mem_cons_of_mem operation inside)

/-- A run of operations does to the rows what it does to the map. -/
theorem performAll {operations : List Operation}
    (created : ∀ field, .upsert field ∈ operations → isAccepted field.createdAt)
    (represents : Represents isAccepted rows map) :
    ∃ last, ((⟨some rows⟩ : Store).performAll operations).2 = ⟨some last⟩ ∧
      Represents isAccepted last (operations.foldl FieldMap.after map) := by
  induction operations generalizing rows map with
  | nil => exact ⟨rows, rfl, represents⟩
  | cons operation later inductionHypothesis =>
      obtain ⟨createdFirst, createdLater⟩ := created_cons created
      obtain ⟨next, changed, following⟩ := represents.perform createdFirst
      obtain ⟨last, ends, represented⟩ := inductionHypothesis createdLater following
      refine ⟨last, ?_, represented⟩
      rw [Store.performAll_cons, changed]
      exact ends

end

end Represents

end AssetSearch.Catalog

/-
This file shows that the fields of a team are listed in the order of their creation, although the
catalog compares the texts of their times.
-/

import AssetSearch.Proofs.Catalog.Refinement
import AssetSearch.Proofs.Results
import AssetSearch.Proofs.Time.StoredOrder

namespace AssetSearch.Catalog

open AssetSearch.Text
open AssetSearch.Time

/-- The first field was created before the second one, or at the same time and has a name that does
not come later. -/
def CustomField.IsNotAfter (first second : CustomField) : Prop :=
  first.createdAt.isBefore second.createdAt = true ∨
    first.createdAt = second.createdAt ∧ bytes first.name ≤ bytes second.name

instance (first second : CustomField) : Decidable (first.IsNotAfter second) :=
  inferInstanceAs (Decidable (_ ∨ _))

namespace Row

theorem isNotAfter_iff {first second : Row} :
    first.isNotAfter second = true ↔ first.createdAt.place < second.createdAt.place ∨
      first.createdAt.place = second.createdAt.place ∧ first.name.place ≤ second.name.place := by
  simp only [isNotAfter, Bool.or_eq_true, Bool.and_eq_true, decide_eq_true_eq]

theorem isNotAfter_trans (first second third : Row) (before : first.isNotAfter second = true)
    (further : second.isNotAfter third = true) : first.isNotAfter third = true := by
  rw [isNotAfter_iff] at *
  rcases before with earlier | ⟨sameTime, names⟩
  · rcases further with later | ⟨same, _⟩
    · exact Or.inl (List.lt_trans earlier later)
    · exact Or.inl (same ▸ earlier)
  · rw [sameTime]
    exact further.imp_right (And.imp_right fun laterNames => List.le_trans names laterNames)

theorem isNotAfter_total (first second : Row) :
    (first.isNotAfter second || second.isNotAfter first) = true := by
  rw [Bool.or_eq_true, isNotAfter_iff, isNotAfter_iff]
  by_cases before : first.createdAt.place < second.createdAt.place
  · exact Or.inl (Or.inl before)
  by_cases after : second.createdAt.place < first.createdAt.place
  · exact Or.inr (Or.inl after)
  have same : first.createdAt.place = second.createdAt.place :=
    List.le_antisymm (List.not_lt.mp after) (List.not_lt.mp before)
  rcases List.le_total first.name.place second.name.place with names | names
  · exact Or.inl (Or.inr ⟨same, names⟩)
  · exact Or.inr (Or.inr ⟨same.symm, names⟩)

/-- Rows that differ in their times or names have only one order. -/
theorem mergeSort_eq {rows sorted : List Row} (permuted : rows.Perm sorted)
    (ordered : sorted.Pairwise fun first second => first.isNotAfter second = true)
    (distinct : ∀ first ∈ sorted, ∀ second ∈ sorted,
      first.isNotAfter second = true → second.isNotAfter first = true → first = second) :
    rows.mergeSort Row.isNotAfter = sorted := by
  have arranged := (List.mergeSort_perm rows Row.isNotAfter).trans permuted
  refine List.Perm.eq_of_pairwise ?_
    (List.pairwise_mergeSort isNotAfter_trans isNotAfter_total rows) ordered arranged
  intro first second firstInside
  exact distinct first (arranged.mem_iff.mp firstInside) second

/-- What is read from a stored field is stored in the same way. -/
theorem ofField_read {field read : CustomField} (valid : field.createdAt.IsValid)
    (isOk : (ofField field).field = .ok read) :
    ofField read = ofField field ∧ read.createdAt.IsStorable := by
  have plain := (field_ofField_isOk_iff valid).mp ⟨read, isOk⟩
  rw [field_ofField valid plain, Except.ok.injEq] at isOk
  rw [← isOk]
  exact ⟨ofField_asWritten valid, valid.asWritten, plain.asWritten, valid.leapEndsMinute_asWritten⟩

/-- The rows of stored fields stand in the order of the fields. -/
theorem isNotAfter_ofField {first second : CustomField} (storable : first.createdAt.IsStorable)
    (other : second.createdAt.IsStorable) :
    (ofField first).isNotAfter (ofField second) = true ↔ first.IsNotAfter second := by
  have times : (ofField first).createdAt.place < (ofField second).createdAt.place ↔
      Rfc3339.storedText first.createdAt < Rfc3339.storedText second.createdAt :=
    List.cons_lt_cons_self.trans bytes_lt_iff
  have sameTimes : (ofField first).createdAt.place = (ofField second).createdAt.place ↔
      Rfc3339.storedText first.createdAt = Rfc3339.storedText second.createdAt :=
    (List.cons_inj_right 1).trans bytes_inj
  have names : (ofField first).name.place ≤ (ofField second).name.place ↔
      bytes first.name ≤ bytes second.name := by
    rw [← List.not_lt, ← List.not_lt]
    exact not_congr List.cons_lt_cons_self
  rw [isNotAfter_iff, CustomField.IsNotAfter, times, sameTimes, names,
    ← Rfc3339.storedText_lt_iff storable other, ← Rfc3339.storedText_inj storable other]

/-- The listed fields are written as the rows that they are read from. -/
theorem ofField_mapM_read {rows : List Row} {fields : List CustomField}
    (stored : ∀ row ∈ rows, ∃ field : CustomField, field.createdAt.IsValid ∧ ofField field = row)
    (read : rows.mapM Row.field = .ok fields) :
    fields.map ofField = rows ∧ ∀ field ∈ fields, field.createdAt.IsStorable := by
  induction rows generalizing fields with
  | nil =>
      cases read
      exact ⟨rfl, fun field inside => by cases inside⟩
  | cons row later inductionHypothesis =>
      obtain ⟨⟨original, valid, rfl⟩, storedLater⟩ := List.forall_mem_cons.mp stored
      rw [List.mapM_cons] at read
      obtain ⟨field, firstRead, read⟩ := bind_isOk read
      obtain ⟨others, laterRead, read⟩ := bind_isOk read
      cases read
      obtain ⟨same, storable⟩ := ofField_read valid firstRead
      obtain ⟨written, storables⟩ := inductionHypothesis storedLater laterRead
      refine ⟨?_, List.forall_mem_cons.mpr ⟨storable, storables⟩⟩
      rw [List.map_cons, same, written]

end Row

namespace Represents

variable {rows : List Row} {map : FieldMap}

theorem stored (represents : Represents Instant.IsValid rows map) {row : Row}
    (inside : row ∈ rows) :
    ∃ field : CustomField, field.createdAt.IsValid ∧ Row.ofField field = row := by
  obtain ⟨id, field, bound, same⟩ := represents.mem_iff.mp inside
  exact ⟨field, represents.created bound, same⟩

theorem list_pairwise (represents : Represents Instant.IsValid rows map) {teamId : String}
    {fields : List CustomField} (listed : (⟨some rows⟩ : Store).list teamId = .ok fields) :
    fields.Pairwise CustomField.IsNotAfter := by
  -- The sorted rows are the rows of the fields that are read from them.
  have sorted := List.pairwise_mergeSort Row.isNotAfter_trans Row.isNotAfter_total
    (rows.filter (·.teamId = .text teamId))
  obtain ⟨written, storable⟩ := Row.ofField_mapM_read
    (fun row inside => represents.stored (Store.mem_listed.mp inside).1) listed
  rw [← written, List.pairwise_map] at sorted
  apply sorted.imp_of_mem
  intro first second firstInside secondInside notAfter
  exact (Row.isNotAfter_ofField (storable first firstInside) (storable second secondInside)).mp
    notAfter

/-- A stored time that can be read is the text of a time that is stored as it is. -/
theorem createdAt_read (represents : Represents Instant.IsValid rows map) {texts : RowTexts}
    (inside : texts.row ∈ rows) {instant : Instant}
    (read : Rfc3339.readStrict texts.createdAt = .ok instant) :
    texts.createdAt = Rfc3339.storedText instant ∧ instant.IsStorable := by
  obtain ⟨field, valid, same⟩ := represents.stored inside
  have written : texts.createdAt = Rfc3339.storedText field.createdAt :=
    (Cell.text.inj (congrArg Row.createdAt same)).symm
  rw [written] at read ⊢
  by_cases plain : field.createdAt.HasPlainYear
  · rw [Rfc3339.readStrict_storedText valid plain, Except.ok.injEq] at read
    rw [← read]
    exact ⟨(Rfc3339.storedText_asWritten valid).symm, valid.asWritten, plain.asWritten,
      valid.leapEndsMinute_asWritten⟩
  · rw [Rfc3339.readStrict_storedText_signed plain] at read
    cases read

end Represents

namespace Store

/-- After any run from the empty catalog every list stands in the order of creation, with names in
the order of their bytes where times are the same. The table holds nothing but texts, and the bytes
of two stored times that can be read are compared as the times are. -/
theorem list_isChronological (operations : List Operation)
    (valid : ∀ field, .upsert field ∈ operations → field.createdAt.IsValid) :
    ∃ rows, (Store.empty.performAll operations).2 = ⟨some rows⟩ ∧
      (∀ row ∈ rows, row.HoldsTexts) ∧
      (∀ teamId fields, (⟨some rows⟩ : Store).list teamId = .ok fields →
        fields.Pairwise CustomField.IsNotAfter) ∧
      ∀ first second : RowTexts, first.row ∈ rows → second.row ∈ rows →
        ∀ firstTime secondTime,
          Rfc3339.readStrict first.createdAt = .ok firstTime →
          Rfc3339.readStrict second.createdAt = .ok secondTime →
            (bytes first.createdAt < bytes second.createdAt ↔
              firstTime.isBefore secondTime = true) ∧
            (bytes first.createdAt = bytes second.createdAt ↔ firstTime = secondTime) := by
  obtain ⟨rows, last, represents⟩ := (Represents.empty Instant.IsValid).performAll valid
  refine ⟨rows, last, ?_, fun teamId fields listed => represents.list_pairwise listed, ?_⟩
  · intro row inside
    obtain ⟨field, rfl⟩ := represents.isField row inside
    exact Row.holdsTexts_ofField field
  intro first second firstInside secondInside firstTime secondTime firstRead secondRead
  obtain ⟨firstText, storable⟩ := represents.createdAt_read firstInside firstRead
  obtain ⟨secondText, other⟩ := represents.createdAt_read secondInside secondRead
  rw [bytes_lt_iff, bytes_inj, firstText, secondText]
  exact ⟨Rfc3339.storedText_lt_iff storable other, Rfc3339.storedText_inj storable other⟩

/-- The half of a leap second is written with fewer places than the time after it, and both come
before the new year. -/
def aroundNewYear : List Operation := [
  .upsert ⟨"f-1", "team-1", "Year", "year", .date, ⟨⟨2017, 1, 1⟩, 0, 0⟩⟩,
  .upsert ⟨"f-2", "team-1", "Serial", "serial", .text, ⟨⟨2016, 12, 31⟩, 86399, 1500001000⟩⟩,
  .upsert ⟨"f-3", "team-1", "Price", "price", .number, ⟨⟨2016, 12, 31⟩, 86399, 1500000000⟩⟩,
  .upsert ⟨"f-4", "team-1", "Owner", "owner", .text, ⟨⟨2016, 12, 31⟩, 86399, 1500000000⟩⟩,
  .upsert ⟨"f-3", "team-1", "Worth", "worth", .number, ⟨⟨2020, 1, 1⟩, 0, 0⟩⟩,
  .upsert ⟨"f-5", "team-1", "Colour", "colour", .tag, ⟨⟨2016, 12, 31⟩, 86399, 0⟩⟩,
  .rename "f-2" "Number",
  .delete "f-5"]

/-- The third field kept its time when it was replaced. -/
def aroundNewYearFields : List CustomField := [
  ⟨"f-4", "team-1", "Owner", "owner", .text, ⟨⟨2016, 12, 31⟩, 86399, 1500000000⟩⟩,
  ⟨"f-3", "team-1", "Worth", "worth", .number, ⟨⟨2016, 12, 31⟩, 86399, 1500000000⟩⟩,
  ⟨"f-2", "team-1", "Number", "number", .text, ⟨⟨2016, 12, 31⟩, 86399, 1500001000⟩⟩,
  ⟨"f-1", "team-1", "Year", "year", .date, ⟨⟨2017, 1, 1⟩, 0, 0⟩⟩]

theorem aroundNewYear_list :
    (Store.empty.performAll aroundNewYear).2.list "team-1" = .ok aroundNewYearFields := by
  have performed : (Store.empty.performAll aroundNewYear).2 =
      ⟨some (aroundNewYearFields.map Row.ofField).reverse⟩ := by
    decide +kernel
  have sorted : ((aroundNewYearFields.map Row.ofField).reverse.filter
      (·.teamId = .text "team-1")).mergeSort Row.isNotAfter = aroundNewYearFields.map Row.ofField :=
    Row.mergeSort_eq (by decide +kernel) (by decide +kernel) (by decide +kernel)
  rw [performed]
  change (List.mergeSort _ Row.isNotAfter).mapM Row.field = _
  rw [sorted]
  decide +kernel

theorem list_isChronological_aroundNewYear :
    (∀ field, .upsert field ∈ aroundNewYear → field.createdAt.IsValid) ∧
      (Store.empty.performAll aroundNewYear).2.list "team-1" = .ok aroundNewYearFields ∧
      aroundNewYearFields.Pairwise CustomField.IsNotAfter := by
  have valid : ∀ field, .upsert field ∈ aroundNewYear → field.createdAt.IsValid := by
    intro field inside
    simp only [aroundNewYear, List.mem_cons, Operation.upsert.injEq, reduceCtorEq,
      List.not_mem_nil, or_false] at inside
    rcases inside with rfl | rfl | rfl | rfl | rfl | rfl
    all_goals exact ⟨by decide, by decide, by decide⟩
  have listed := aroundNewYear_list
  obtain ⟨rows, last, -, chronological, -⟩ := list_isChronological aroundNewYear valid
  rw [last] at listed ⊢
  exact ⟨valid, listed, chronological "team-1" aroundNewYearFields listed⟩

end Store

end AssetSearch.Catalog

/-
This file shows that tasks, summaries of tasks, custom fields and index queries are decoded from
the texts that they are written as, and that nothing of them is lost.
-/

import AssetSearch.Catalog.Field
import AssetSearch.Index.Hits
import AssetSearch.Index.Task
import AssetSearch.Proofs.Json.Records

namespace AssetSearch.Index

open AssetSearch.Catalog
open AssetSearch.Json
open AssetSearch.Query
open AssetSearch.Time

/-- Also the unknown type has a name. -/
theorem decodeType_name (taskType : TaskType) :
    decodeType (Value.text taskType.name).document = some taskType := by
  rw [decodeType, Decoder.named_text]
  cases taskType <;> decide +kernel

theorem decodeStatus_name (status : TaskStatus) :
    decodeStatus (Value.text status.name).document = some status := by
  rw [decodeStatus, Decoder.named_text]
  cases status <;> decide +kernel

theorem decodeFieldType_name (fieldType : FieldType) :
    Decoder.named FieldType.ofName? (Value.text fieldType.name).document = some fieldType := by
  rw [Decoder.named_text]
  cases fieldType <;> decide +kernel

theorem IndexTask.decode_document {task : IndexTask} (small : task.uid < 2 ^ 64)
    (decoded : IsDecoded task.enqueuedAt) : decode task.toJson.document = some task := by
  rw [decode, toJson, Fields.ofDocument?_object (by simp [fieldNames]) (by simp)]
  simp [Fields.required, Fields.optional, List.lookup_cons, Decoder.natural_ofNat small,
    Decoder.instant_text decoded, decodeType_name, decodeStatus_name, Decoder.optional_ofOption]

theorem TaskSummary.decode_document {summary : TaskSummary} (small : summary.taskUid < 2 ^ 64)
    (decoded : IsDecoded summary.enqueuedAt) : decode summary.toJson.document = some summary := by
  rw [decode, toJson, Fields.ofDocument?_object (by simp [fieldNames]) (by simp)]
  simp [Fields.required, Fields.optional, List.lookup_cons, Decoder.natural_ofNat small,
    Decoder.instant_text decoded, decodeType_name, decodeStatus_name, Decoder.optional_ofOption]

theorem decode_customField {field : CustomField} (decoded : IsDecoded field.createdAt) :
    CustomField.decode field.toJson.document = some field := by
  rw [CustomField.decode, CustomField.toJson,
    Fields.ofDocument?_object (by simp [CustomField.fieldNames]) (by simp)]
  simp [Fields.required, List.lookup_cons, Decoder.text_text, Decoder.instant_text decoded,
    decodeFieldType_name]

/-- An absent part has no member. -/
theorem IndexQuery.decode_document (query : IndexQuery) :
    decode (toJson query).document = some query := by
  obtain ⟨text, filter⟩ := query
  cases text with
  | none =>
      cases filter with
      | none => rfl
      | some filter => rfl
  | some text =>
      cases filter with
      | none => rfl
      | some filter => rfl

theorem isIntegral_ofOption (content : Option String) :
    (Value.ofOption .text content).IsIntegral := by
  cases content with
  | none => trivial
  | some content => trivial

theorem IndexTask.toJson_isIntegral (task : IndexTask) : task.toJson.IsIntegral :=
  ⟨trivial, trivial, isIntegral_ofOption _, trivial, trivial, isIntegral_ofOption _, trivial⟩

theorem TaskSummary.toJson_isIntegral (summary : TaskSummary) : summary.toJson.IsIntegral :=
  ⟨trivial, isIntegral_ofOption _, trivial, trivial, trivial, trivial⟩

theorem customField_isIntegral (field : CustomField) : field.toJson.IsIntegral :=
  ⟨trivial, trivial, trivial, trivial, trivial, trivial, trivial⟩

theorem IndexQuery.toJson_isIntegral (query : IndexQuery) : (toJson query).IsIntegral := by
  obtain ⟨text, filter⟩ := query
  cases text with
  | none =>
      cases filter with
      | none => trivial
      | some filter => exact ⟨trivial, trivial⟩
  | some text =>
      cases filter with
      | none => exact ⟨trivial, trivial⟩
      | some filter => exact ⟨trivial, trivial, trivial⟩

/-- Every value is decoded from its text, with any blanks between the parts: whatever texts, numbers
of 64 bits, times, types and statuses it has, and whichever of its parts are absent. -/
theorem serializedForms_loseNothing {layout : Layout} (blank : layout.IsBlank) (depth : Nat) :
    (∀ task : IndexTask, task.uid < 2 ^ 64 → IsDecoded task.enqueuedAt →
      Decoder.ofText? IndexTask.decode (task.toJson.write layout depth) = some task) ∧
    (∀ summary : TaskSummary, summary.taskUid < 2 ^ 64 → IsDecoded summary.enqueuedAt →
      Decoder.ofText? TaskSummary.decode (summary.toJson.write layout depth) = some summary) ∧
    (∀ field : CustomField, IsDecoded field.createdAt →
      Decoder.ofText? CustomField.decode (field.toJson.write layout depth) = some field) ∧
    ∀ query : IndexQuery,
      Decoder.ofText? IndexQuery.decode ((IndexQuery.toJson query).write layout depth) =
        some query := by
  refine ⟨?_, ?_, ?_, ?_⟩
  · intro task small decoded
    rw [Decoder.ofText?_write _ blank depth task.toJson_isIntegral]
    exact IndexTask.decode_document small decoded
  · intro summary small decoded
    rw [Decoder.ofText?_write _ blank depth summary.toJson_isIntegral]
    exact TaskSummary.decode_document small decoded
  · intro field decoded
    rw [Decoder.ofText?_write _ blank depth (customField_isIntegral field)]
    exact decode_customField decoded
  · intro query
    rw [Decoder.ofText?_write _ blank depth (IndexQuery.toJson_isIntegral query)]
    exact IndexQuery.decode_document query

/-- This task has the largest identity, a leap second in a year of five digits, no index, and a
message whose characters are escaped in three ways. -/
def farTask : IndexTask :=
  ⟨18446744073709551615, ⟨⟨12024, 6, 30⟩, 86399, 1500000000⟩, none, .unknown, .unknown,
    some "a \"quote\",\n\x01 and 😀"⟩

theorem serializedForms_loseNothing_farTask :
    Layout.compact.IsBlank ∧ Layout.indented.IsBlank ∧ farTask.uid < 2 ^ 64 ∧
      IsDecoded farTask.enqueuedAt ∧
      Decoder.ofText? IndexTask.decode farTask.toJson.compactText = some farTask ∧
      Decoder.ofText? IndexTask.decode farTask.toJson.indentedText = some farTask := by
  have small : farTask.uid < 2 ^ 64 := by decide
  have decoded : IsDecoded farTask.enqueuedAt := ⟨"+12024-06-30 23:59:60.5 UTC", by decide +kernel⟩
  refine ⟨Layout.compact_isBlank, Layout.indented_isBlank, small, decoded, ?_, ?_⟩
  · exact (serializedForms_loseNothing Layout.compact_isBlank 0).1 farTask small decoded
  · exact (serializedForms_loseNothing Layout.indented_isBlank 0).1 farTask small decoded

end AssetSearch.Index

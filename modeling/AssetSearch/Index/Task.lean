/-
This file holds the tasks of an index service, as they are listed, accepted and written.
-/

import AssetSearch.Json.Record

namespace AssetSearch.Index

open AssetSearch.Json
open AssetSearch.Time

/-- A newer service may have types of tasks without a name here. -/
inductive TaskType where
  | indexCreation
  | indexUpdate
  | indexDeletion
  | indexSwap
  | documentAdditionOrUpdate
  | documentDeletion
  | settingsUpdate
  | dumpCreation
  | taskCancelation
  | taskDeletion
  | snapshotCreation
  | unknown
  deriving DecidableEq, Repr

namespace TaskType

def all : List TaskType := [
  indexCreation, indexUpdate, indexDeletion, indexSwap, documentAdditionOrUpdate,
  documentDeletion, settingsUpdate, dumpCreation, taskCancelation, taskDeletion,
  snapshotCreation, unknown]

def name : TaskType → String
  | indexCreation => "indexCreation"
  | indexUpdate => "indexUpdate"
  | indexDeletion => "indexDeletion"
  | indexSwap => "indexSwap"
  | documentAdditionOrUpdate => "documentAdditionOrUpdate"
  | documentDeletion => "documentDeletion"
  | settingsUpdate => "settingsUpdate"
  | dumpCreation => "dumpCreation"
  | taskCancelation => "taskCancelation"
  | taskDeletion => "taskDeletion"
  | snapshotCreation => "snapshotCreation"
  | unknown => "unknown"

/-- Every other name is that of an unknown type. -/
def ofName (name : String) : TaskType :=
  (all.find? (·.name = name)).getD unknown

end TaskType

inductive TaskStatus where
  | enqueued
  | processing
  | succeeded
  | failed
  | canceled
  | unknown
  deriving DecidableEq, Repr

namespace TaskStatus

def all : List TaskStatus := [enqueued, processing, succeeded, failed, canceled, unknown]

def name : TaskStatus → String
  | enqueued => "enqueued"
  | processing => "processing"
  | succeeded => "succeeded"
  | failed => "failed"
  | canceled => "canceled"
  | unknown => "unknown"

/-- Every other name is that of an unknown status. -/
def ofName (name : String) : TaskStatus :=
  (all.find? (·.name = name)).getD unknown

/-- The task waits or runs. -/
def isPending : TaskStatus → Bool
  | enqueued | processing => true
  | _ => false

def isFailed : TaskStatus → Bool
  | failed => true
  | _ => false

end TaskStatus

def decodeType : Decoder TaskType := Decoder.named fun name => some (TaskType.ofName name)

def decodeStatus : Decoder TaskStatus := Decoder.named fun name => some (TaskStatus.ofName name)

/-- A task without an index concerns all of the service. -/
structure IndexTask where
  uid : Nat
  enqueuedAt : Instant
  indexId : Option String
  taskType : TaskType
  status : TaskStatus
  errorMessage : Option String
  deriving DecidableEq, Repr

namespace IndexTask

def toJson (task : IndexTask) : Value :=
  .object [
    ("uid", .ofNat task.uid),
    ("enqueuedAt", .text (Rfc3339.text task.enqueuedAt)),
    ("indexId", .ofOption .text task.indexId),
    ("type", .text task.taskType.name),
    ("status", .text task.status.name),
    ("errorMessage", .ofOption .text task.errorMessage)]

def fieldNames : List String :=
  ["uid", "enqueuedAt", "indexId", "type", "status", "errorMessage"]

def decode : Decoder IndexTask := fun document => do
  let fields ← Fields.ofDocument? fieldNames document
  let uid ← fields.required "uid" Decoder.natural
  let enqueuedAt ← fields.required "enqueuedAt" Decoder.instant
  let indexId ← fields.optional "indexId" Decoder.text
  let taskType ← fields.required "type" decodeType
  let status ← fields.required "status" decodeStatus
  let errorMessage ← fields.optional "errorMessage" Decoder.text
  return ⟨uid, enqueuedAt, indexId, taskType, status, errorMessage⟩

end IndexTask

/-- The service answers with a summary when it has accepted a task. -/
structure TaskSummary where
  taskUid : Nat
  indexUid : Option String
  status : TaskStatus
  taskType : TaskType
  enqueuedAt : Instant
  deriving DecidableEq, Repr

namespace TaskSummary

def toJson (summary : TaskSummary) : Value :=
  .object [
    ("taskUid", .ofNat summary.taskUid),
    ("indexUid", .ofOption .text summary.indexUid),
    ("status", .text summary.status.name),
    ("type", .text summary.taskType.name),
    ("enqueuedAt", .text (Rfc3339.text summary.enqueuedAt))]

def fieldNames : List String := ["taskUid", "indexUid", "status", "type", "enqueuedAt"]

def decode : Decoder TaskSummary := fun document => do
  let fields ← Fields.ofDocument? fieldNames document
  let taskUid ← fields.required "taskUid" Decoder.natural
  let indexUid ← fields.optional "indexUid" Decoder.text
  let status ← fields.required "status" decodeStatus
  let taskType ← fields.required "type" decodeType
  let enqueuedAt ← fields.required "enqueuedAt" Decoder.instant
  return ⟨taskUid, indexUid, status, taskType, enqueuedAt⟩

end TaskSummary

namespace TaskPage

/-- Of the error of a task only its message is read. -/
def decodeError : Decoder String := fun document => do
  let fields ← Fields.ofDocument? ["message"] document
  fields.required "message" Decoder.text

def taskFieldNames : List String :=
  ["uid", "indexUid", "status", "type", "enqueuedAt", "error"]

/-- A task of a page has other names for some of its fields, and the error may be missing. -/
def decodeTask : Decoder IndexTask := fun document => do
  let fields ← Fields.ofDocument? taskFieldNames document
  let uid ← fields.required "uid" Decoder.natural
  let indexId ← fields.optional "indexUid" Decoder.text
  let status ← fields.required "status" decodeStatus
  let taskType ← fields.required "type" decodeType
  let enqueuedAt ← fields.required "enqueuedAt" Decoder.instant
  let errorMessage ← fields.withDefault "error" none decodeError.optional
  return ⟨uid, enqueuedAt, indexId, taskType, status, errorMessage⟩

/-- A page lists the results, and what else it says is passed over. -/
def decode : Decoder (List IndexTask) := fun document => do
  let fields ← Fields.ofDocument? ["results"] document
  fields.required "results" (Decoder.list decodeTask)

end TaskPage

end AssetSearch.Index

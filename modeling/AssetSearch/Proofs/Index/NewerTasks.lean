/-
This file shows that the tasks of a newer service can be listed. Statuses and types without a name
here are unknown, further members of a page, a result or an error are passed over, and every result
is one task.
-/

import AssetSearch.Index.Task
import AssetSearch.Network.Client
import AssetSearch.Proofs.Json.Grammar
import AssetSearch.Proofs.Json.KnownMembers
import AssetSearch.Proofs.Json.Records
import AssetSearch.Proofs.Time.ZonedTimes

namespace AssetSearch.Index

open AssetSearch.Json
open AssetSearch.Network
open AssetSearch.Number
open AssetSearch.Time
open AssetSearch.Time.FilterDate

/-- An error is an object with a message and maybe more, and a task without one leaves it out or has
null. -/
inductive GivesError : List Document → Option String → Prop
  | missing : GivesError [] none
  | null : GivesError [.null] none
  | object {members : List (Option String × Document)} {message : String}
      (named : ∀ member ∈ members, member.1.isSome)
      (held : valuesOf "message" members = [.text (some message)]) :
      GivesError [.object members] (some message)

/-- This is what a service says of a task, in its own names. -/
structure TaskReport where
  uid : Nat
  statusName : String
  typeName : String
  enqueuedAt : Instant
  indexId : Option String
  errorMessage : Option String

/-- The members of a result stand in any order, and others may stand among them. -/
structure TaskReport.IsIn (report : TaskReport) (members : List (Option String × Document)) :
    Prop where
  named : ∀ member ∈ members, member.1.isSome
  small : report.uid < 2 ^ 64
  uid : valuesOf "uid" members = [.number (Nat.toDigits 10 report.uid)]
  status : valuesOf "status" members = [.text (some report.statusName)]
  taskType : valuesOf "type" members = [.text (some report.typeName)]
  enqueuedAt : ∃ text, valuesOf "enqueuedAt" members = [.text (some text)] ∧
    Rfc3339.readRelaxed text = .ok report.enqueuedAt
  indexId : GivesText (valuesOf "indexUid" members) report.indexId
  error : GivesError (valuesOf "error" members) report.errorMessage

/-- These are the names of the statuses that are known. -/
def statusNames : List (String × TaskStatus) := [
  ("enqueued", .enqueued), ("processing", .processing), ("succeeded", .succeeded),
  ("failed", .failed), ("canceled", .canceled)]

/-- These are the names of the types that are known. -/
def typeNames : List (String × TaskType) := [
  ("indexCreation", .indexCreation), ("indexUpdate", .indexUpdate),
  ("indexDeletion", .indexDeletion), ("indexSwap", .indexSwap),
  ("documentAdditionOrUpdate", .documentAdditionOrUpdate),
  ("documentDeletion", .documentDeletion), ("settingsUpdate", .settingsUpdate),
  ("dumpCreation", .dumpCreation), ("taskCancelation", .taskCancelation),
  ("taskDeletion", .taskDeletion), ("snapshotCreation", .snapshotCreation)]

/-- A name in the table stands for its value, and any other name for the unknown one. -/
def StandsFor {Kind : Type} (table : List (String × Kind)) (unknown : Kind) (name : String)
    (kind : Kind) : Prop :=
  (name, kind) ∈ table ∨ name ∉ table.map Prod.fst ∧ kind = unknown

theorem StandsFor.unique {Kind : Type} {table : List (String × Kind)} {unknown kind other : Kind}
    {name : String} (distinct : (table.map Prod.fst).Nodup)
    (stands : StandsFor table unknown name kind) (alsoStands : StandsFor table unknown name other) :
    kind = other := by
  rcases stands with inside | ⟨missing, rfl⟩
  · rcases alsoStands with alsoInside | ⟨missing, -⟩
    · exact congrArg Prod.snd (List.inj_on_of_nodup_map distinct inside alsoInside rfl)
    · exact absurd (List.mem_map_of_mem inside) missing
  · rcases alsoStands with inside | ⟨-, same⟩
    · exact absurd (List.mem_map_of_mem inside) missing
    · exact same.symm

/-- The task has all that is said of it. -/
structure TaskReport.IsTask (report : TaskReport) (task : IndexTask) : Prop where
  uid : task.uid = report.uid
  enqueuedAt : task.enqueuedAt = report.enqueuedAt
  indexId : task.indexId = report.indexId
  errorMessage : task.errorMessage = report.errorMessage
  status : StandsFor statusNames .unknown report.statusName task.status
  taskType : StandsFor typeNames .unknown report.typeName task.taskType

/-- Nothing of the task is left open. -/
theorem TaskReport.IsTask.unique {report : TaskReport} {task other : IndexTask}
    (isTask : report.IsTask task) (alsoIsTask : report.IsTask other) : task = other := by
  have status := isTask.status.unique (by decide) alsoIsTask.status
  have taskType := isTask.taskType.unique (by decide) alsoIsTask.taskType
  obtain ⟨uid, enqueuedAt, indexId, kind, state, errorMessage⟩ := task
  obtain ⟨rfl, rfl, rfl, rfl, -, -⟩ := isTask
  obtain ⟨otherUid, otherTime, otherIndex, otherKind, otherState, otherMessage⟩ := other
  obtain ⟨rfl, rfl, rfl, rfl, -, -⟩ := alsoIsTask
  rw [IndexTask.mk.injEq]
  exact ⟨rfl, rfl, rfl, taskType, status, rfl⟩

/-- A name is looked up among all values, which have the names of the table. -/
theorem standsFor_find {Kind : Type} {nameOf : Kind → String} {all : List Kind}
    {table : List (String × Kind)} {unknown : Kind}
    (listed : ∀ kind ∈ all, (nameOf kind, kind) ∈ table ∨
      nameOf kind ∉ table.map Prod.fst ∧ kind = unknown)
    (covered : ∀ entry ∈ table, entry.2 ∈ all ∧ nameOf entry.2 = entry.1) (name : String) :
    StandsFor table unknown name ((all.find? fun kind => nameOf kind = name).getD unknown) := by
  cases found : all.find? fun kind => nameOf kind = name with
  | none =>
      refine .inr ⟨?_, rfl⟩
      intro inside
      obtain ⟨entry, member, rfl⟩ := List.mem_map.mp inside
      have other := List.find?_eq_none.mp found entry.2 (covered entry member).1
      exact other (decide_eq_true (covered entry member).2)
  | some kind =>
      obtain rfl : nameOf kind = name := by simpa using List.find?_some found
      exact listed kind (List.mem_of_find?_eq_some found)

theorem standsFor_status (name : String) :
    StandsFor statusNames .unknown name (TaskStatus.ofName name) :=
  standsFor_find (by decide) (by decide) name

theorem standsFor_type (name : String) :
    StandsFor typeNames .unknown name (TaskType.ofName name) :=
  standsFor_find (by decide) (by decide) name

theorem decodeError_object {members : List (Option String × Document)} {message : String}
    (named : ∀ member ∈ members, member.1.isSome)
    (held : valuesOf "message" members = [.text (some message)]) :
    TaskPage.decodeError (.object members) = some message := by
  have once : ∀ name ∈ ["message"], (valuesOf name members).length ≤ 1 := by
    rw [List.forall_mem_singleton, held]
    exact Nat.le_refl 1
  rw [TaskPage.decodeError, Fields.ofDocument?_eq_some_iff.mpr ⟨named, once, rfl⟩]
  simp [Fields.required_known, held, Decoder.text]

theorem GivesError.decode {documents : List Document} {message : Option String}
    (gives : GivesError documents message) : documents.length ≤ 1 ∧
      documents.head?.elim (some none) TaskPage.decodeError.optional = some message := by
  cases gives with
  | missing => exact ⟨Nat.zero_le 1, rfl⟩
  | null => exact ⟨Nat.le_refl 1, rfl⟩
  | object named held =>
      refine ⟨Nat.le_refl 1, ?_⟩
      change (TaskPage.decodeError _).map some = _
      rw [decodeError_object named held]
      rfl

namespace TaskReport

def task (report : TaskReport) : IndexTask :=
  ⟨report.uid, report.enqueuedAt, report.indexId, TaskType.ofName report.typeName,
    TaskStatus.ofName report.statusName, report.errorMessage⟩

theorem isTask_task (report : TaskReport) : report.IsTask report.task :=
  ⟨rfl, rfl, rfl, rfl, standsFor_status _, standsFor_type _⟩

/-- The members of the fields decide, and all of them can be decoded. -/
theorem IsIn.decodeTask {report : TaskReport} {members : List (Option String × Document)}
    (isIn : report.IsIn members) : TaskPage.decodeTask (.object members) = some report.task := by
  obtain ⟨shortIndex, index⟩ := givesText_iff.mp isIn.indexId
  obtain ⟨shortError, error⟩ := isIn.error.decode
  obtain ⟨text, time, read⟩ := isIn.enqueuedAt
  have once : ∀ name ∈ TaskPage.taskFieldNames, (valuesOf name members).length ≤ 1 := by
    simp [TaskPage.taskFieldNames, isIn.uid, isIn.status, isIn.taskType, time, shortIndex,
      shortError]
  have uid : Decoder.natural (.number (Nat.toDigits 10 report.uid)) = some report.uid := by
    have decoded := Decoder.natural_ofNat isIn.small
    rwa [Value.ofNat, Value.document, integer_text, if_pos (Int.natCast_nonneg _),
      Int.toNat_natCast] at decoded
  rw [TaskPage.decodeTask, Fields.ofDocument?_eq_some_iff.mpr ⟨isIn.named, once, rfl⟩]
  simp [Fields.required_known, Fields.optional_known, Fields.withDefault_known,
    TaskPage.taskFieldNames, isIn.uid, isIn.status, isIn.taskType, time, index, error, uid,
    decodeStatus, decodeType, Decoder.named, Decoder.instant, read,
    Except.toOption, task]

end TaskReport

theorem allOf_eq_map {Content Source : Type} {decoder : Decoder Content}
    {documentOf : Source → Document} {contentOf : Source → Content} {sources : List Source}
    (decoded : ∀ source ∈ sources, decoder (documentOf source) = some (contentOf source)) :
    Decoder.allOf decoder (sources.map documentOf) = some (sources.map contentOf) := by
  induction sources with
  | nil => rfl
  | cons source later inductionHypothesis =>
      obtain ⟨first, others⟩ := List.forall_mem_cons.mp decoded
      rw [List.map_cons, Decoder.allOf, first, inductionHypothesis others]
      rfl

theorem decode_page {members : List (Option String × Document)}
    {results : List (TaskReport × List (Option String × Document))}
    (named : ∀ member ∈ members, member.1.isSome)
    (held : valuesOf "results" members = [.list (results.map fun result => .object result.2)])
    (shown : ∀ result ∈ results, result.1.IsIn result.2) :
    TaskPage.decode (.object members) = some (results.map fun result => result.1.task) := by
  have once : ∀ name ∈ ["results"], (valuesOf name members).length ≤ 1 := by
    rw [List.forall_mem_singleton, held]
    exact Nat.le_refl 1
  have list : Decoder.list TaskPage.decodeTask
      (.list (results.map fun result => .object result.2)) =
        some (results.map fun result => result.1.task) :=
    allOf_eq_map fun result inside => (shown result inside).decodeTask
  rw [TaskPage.decode, Fields.ofDocument?_eq_some_iff.mpr ⟨named, once, rfl⟩]
  simp [Fields.required_known, held, list]

/-- Every page with such results is decoded, and lists one task for each of them, in order. Among
the times that a task may have are those with an offset, which are the exact ones. An unknown status
is neither that of a task that waits or runs nor that of a failure. -/
theorem newerPage_isListed :
    (∀ (text : String) (members : List (Option String × Document))
      (results : List (TaskReport × List (Option String × Document))),
      Spells text.toList (.object members) → (∀ member ∈ members, member.1.isSome) →
      valuesOf "results" members = [.list (results.map fun result => .object result.2)] →
      (∀ result ∈ results, result.1.IsIn result.2) →
      ∃ tasks, Decoder.ofText? TaskPage.decode text = some tasks ∧
        List.Forall₂ TaskReport.IsTask (results.map Prod.fst) tasks ∧
        ∀ label timeout url (response : Response), isSuccess response.status = true →
          response.body = .complete text →
          readExchange label timeout url TaskPage.decode (.answered response) = .ok tasks) ∧
    (∀ (date : Date) (clock : Clock) (zone : Zone),
      date.IsOrdinary → clock.IsTyped → zone.IsTyped →
      ∃ instant days,
        Rfc3339.readRelaxed (String.ofList (Rfc3339.dayText date ('T' :: clock.text zone.text))) =
          .ok instant ∧
        date.IsDaysFrom Instant.epoch.date days ∧
        instant.milliseconds = ⌊(86400 * days + clock.seconds - zone.seconds) * 1000⌋) ∧
    TaskStatus.unknown.isPending = false ∧ TaskStatus.unknown.isFailed = false := by
  refine ⟨?_, fun _ _ _ => Rfc3339.readRelaxed_zoned, rfl, rfl⟩
  intro text members results spells named held shown
  have decoded := decode_page named held shown
  have read : Decoder.ofText? TaskPage.decode text =
      some (results.map fun result => result.1.task) := by
    rw [Decoder.ofText?, spells.ofText?_eq, Option.bind_some, decoded]
  refine ⟨_, read, ?_, ?_⟩
  · rw [List.forall₂_map_left_iff, List.forall₂_map_right_iff, List.forall₂_same]
    exact fun result _ => result.1.isTask_task
  · intro label timeout url response success body
    rw [readExchange, if_pos success, body, decodeBody, read]

/-- The service has a status, a type and members that are new. A second task has known ones. -/
def newerPage : Value :=
  .object [
    ("results", .list [
      .object [
        ("uid", .ofNat 7), ("batchUid", .list []), ("indexUid", .null), ("status", .text "paused"),
        ("type", .text "upgrade"), ("enqueuedAt", .text "2024-05-01T12:00:00+02:00"),
        ("error", .object [("message", .text "No space left."), ("link", .null)])],
      .object [
        ("uid", .ofNat 6), ("indexUid", .text "team-1_tag"), ("status", .text "canceled"),
        ("type", .text "indexSwap"), ("enqueuedAt", .text "2024-05-01T10:00:00Z")]]),
    ("next", .ofNat 8)]

def newerReport : TaskReport :=
  ⟨7, "paused", "upgrade", ⟨⟨2024, 5, 1⟩, 36000, 0⟩, none, some "No space left."⟩

def knownReport : TaskReport :=
  ⟨6, "canceled", "indexSwap", ⟨⟨2024, 5, 1⟩, 36000, 0⟩, some "team-1_tag", none⟩

def newerResult : List (Option String × Document) := [
  (some "uid", .number ['7']), (some "batchUid", .list []), (some "indexUid", .null),
  (some "status", .text (some "paused")), (some "type", .text (some "upgrade")),
  (some "enqueuedAt", .text (some "2024-05-01T12:00:00+02:00")),
  (some "error", .object [
    (some "message", .text (some "No space left.")), (some "link", .null)])]

def knownResult : List (Option String × Document) := [
  (some "uid", .number ['6']), (some "indexUid", .text (some "team-1_tag")),
  (some "status", .text (some "canceled")), (some "type", .text (some "indexSwap")),
  (some "enqueuedAt", .text (some "2024-05-01T10:00:00Z"))]

theorem newerReport_isIn : newerReport.IsIn newerResult where
  named := by decide
  small := by decide
  uid := rfl
  status := rfl
  taskType := rfl
  enqueuedAt := ⟨_, rfl, by decide +kernel⟩
  indexId := .null
  error := .object (by decide) rfl

theorem knownReport_isIn : knownReport.IsIn knownResult where
  named := by decide
  small := by decide
  uid := rfl
  status := rfl
  taskType := rfl
  enqueuedAt := ⟨_, rfl, by decide +kernel⟩
  indexId := .text "team-1_tag"
  error := .missing

def newerMembers : List (Option String × Document) := [
  (some "results", .list [.object newerResult, .object knownResult]),
  (some "next", .number ['8'])]

theorem spells_newerPage : Spells newerPage.compactText.toList (.object newerMembers) :=
  newerPage.spells Layout.compact_isBlank 0
    (by simp [newerPage, Value.IsIntegral, ItemsAreIntegral, MembersAreIntegral, MemberIsIntegral,
      Value.ofNat])

theorem newerPage_isListed_newNames :
    Spells newerPage.compactText.toList (.object newerMembers) ∧
      newerReport.IsIn newerResult ∧ knownReport.IsIn knownResult ∧ isSuccess 200 = true ∧
      Date.IsOrdinary ⟨2024, 5, 1⟩ ∧ Clock.IsTyped ⟨12, 0, 0, 0, 0⟩ ∧
      Zone.IsTyped (.offset false 2 0) ∧
      Decoder.ofText? TaskPage.decode newerPage.compactText =
        some [⟨7, ⟨⟨2024, 5, 1⟩, 36000, 0⟩, none, .unknown, .unknown, some "No space left."⟩,
          ⟨6, ⟨⟨2024, 5, 1⟩, 36000, 0⟩, some "team-1_tag", .indexSwap, .canceled, none⟩] ∧
      ∃ instant, Rfc3339.readRelaxed "2024-05-01T12:00:00+02:00" = .ok instant := by
  have ordinary : Date.IsOrdinary ⟨2024, 5, 1⟩ := ⟨by decide, by decide, by decide⟩
  have typed : Clock.IsTyped ⟨12, 0, 0, 0, 0⟩ :=
    ⟨by decide, by decide, by decide, by decide, by decide⟩
  have zoneTyped : Zone.IsTyped (.offset false 2 0) := by decide
  obtain ⟨listed, times, -⟩ := newerPage_isListed
  refine ⟨spells_newerPage, newerReport_isIn, knownReport_isIn, rfl, ordinary, typed, zoneTyped,
    ?_, ?_⟩
  · obtain ⟨tasks, decoded, areTasks, -⟩ :=
      listed newerPage.compactText newerMembers
        [(newerReport, newerResult), (knownReport, knownResult)] spells_newerPage (by decide) rfl
        (List.forall_mem_cons.mpr
          ⟨newerReport_isIn, List.forall_mem_singleton.mpr knownReport_isIn⟩)
    obtain ⟨newer, later, isNewer, areLater, rfl⟩ := List.forall₂_cons_left_iff.mp areTasks
    obtain ⟨known, nothing, isKnown, none, rfl⟩ := List.forall₂_cons_left_iff.mp areLater
    obtain rfl := List.forall₂_nil_left_iff.mp none
    rw [decoded, isNewer.unique newerReport.isTask_task, isKnown.unique knownReport.isTask_task]
    decide
  · obtain ⟨instant, days, read, -⟩ := times ⟨2024, 5, 1⟩ ⟨12, 0, 0, 0, 0⟩ (.offset false 2 0)
      ordinary typed zoneTyped
    have written : String.ofList (Rfc3339.dayText ⟨2024, 5, 1⟩
        ('T' :: Clock.text ⟨12, 0, 0, 0, 0⟩ (Zone.offset false 2 0).text)) =
          "2024-05-01T12:00:00+02:00" := by
      decide +kernel
    exact ⟨instant, written ▸ read⟩

end AssetSearch.Index

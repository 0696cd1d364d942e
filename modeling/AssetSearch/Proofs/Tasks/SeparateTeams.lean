/-
This file shows that no two teams share an index. Every operation for a team calls indexes of that
team only, and the name of an index tells its team.
-/

import AssetSearch.Proofs.Results
import AssetSearch.Proofs.Tasks.PollSummary
import Mathlib.Data.List.Basic

namespace AssetSearch.Index

open AssetSearch.Query

/-- These are the indexes that a call names. -/
def Call.indexes : Call → List String
  | listTasks indexes _ => indexes
  | updateAttributes index _ => [index]
  | search index _ _ => [index]

/-- The index belongs to the team, whatever its kind. -/
def Naming.Owns (naming : Naming) (teamId index : String) : Prop :=
  ∃ kind, naming.indexOf teamId kind = .ok index

namespace Naming

variable {naming : Naming} {teamId other index : String}

theorem Owns.team_eq (owned : naming.Owns teamId index) (others : naming.Owns other index) :
    teamId = other := by
  obtain ⟨kind, named⟩ := owned
  obtain ⟨otherKind, otherNamed⟩ := others
  have name := (indexOf_eq_ok_iff.mp named).2
  have otherName := (indexOf_eq_ok_iff.mp otherNamed).2
  exact (indexName_inj.mp (name.trans otherName.symm)).1

theorem indexOf_injective :
    Function.Injective fun index : {teamId // IsTeamName teamId} × EntityKind =>
      naming.indexOf index.1 index.2 := by
  rintro ⟨⟨first, firstValid⟩, kind⟩ ⟨⟨second, secondValid⟩, otherKind⟩ same
  have named : naming.indexOf second otherKind = .ok (naming.indexName second otherKind) :=
    indexOf_eq_ok_iff.mpr ⟨secondValid, rfl⟩
  obtain ⟨rfl, rfl⟩ := indexName_inj.mp (indexOf_eq_ok_iff.mp (same.trans named)).2
  rfl

theorem owns_of_teamIndexes {indexes : List (EntityKind × String)}
    (listed : naming.teamIndexes teamId = .ok indexes) {entry : EntityKind × String}
    (inside : entry ∈ indexes) : naming.Owns teamId entry.2 := by
  by_cases valid : IsTeamName teamId
  · rw [teamIndexes_valid valid] at listed
    obtain rfl := Except.ok.inj listed
    obtain ⟨kind, -, rfl⟩ := List.mem_map.mp inside
    exact ⟨kind, indexOf_eq_ok_iff.mpr ⟨valid, rfl⟩⟩
  · obtain ⟨message, refused⟩ := checkTeam_refused valid
    rw [teamIndexes_refused refused] at listed
    contradiction

end Naming

end AssetSearch.Index

namespace AssetSearch.Tasks

open AssetSearch.Index
open AssetSearch.Query
open AssetSearch.Search

/-- These operations call the index service. -/
inductive TeamOperation where
  | search (catalog : KeywordCatalog) (query : String) (limit : Nat)
  | listTasks (limit : Nat)
  | rebuild (catalog : KeywordCatalog)
  | watch (limit : Nat) (interval : Milliseconds) (moments : List Milliseconds)

namespace TeamOperation

/-- A watcher runs at the given moments. -/
def perform (naming : Naming) (answers : Answers) (teamId : String) :
    TeamOperation → Recorded Unit
  | search catalog query limit => do
      let _ ← Search.search answers.service catalog naming teamId query limit
  | listTasks limit => do
      let _ ← Tasks.listTasks answers.service naming limit teamId
  | rebuild catalog => do
      let _ ← Tasks.rebuild answers.service catalog naming teamId
  | watch limit interval moments => do
      let _ ← (Watcher.start teamId interval).channelsAt
        (Tasks.listTasks answers.service naming limit) moments

def performAll (naming : Naming) (answers : Answers) (teamId : String) :
    List TeamOperation → Recorded Unit
  | [] => return
  | operation :: later => do
      operation.perform naming answers teamId
      performAll naming answers teamId later

/-- These are the indexes that are named in all calls of the operations together. -/
def namedIndexes (naming : Naming) (answers : Answers) (teamId : String)
    (operations : List TeamOperation) : List String :=
  (performAll naming answers teamId operations []).2.flatMap Call.indexes

end TeamOperation

/-- All indexes that the call names belong to the team. -/
def ConcernsOnly (naming : Naming) (teamId : String) (call : Call) : Prop :=
  ∀ index ∈ call.indexes, naming.Owns teamId index

section

variable {naming : Naming} {answers : Answers} {teamId query : String} {limit : Nat}
  {catalog : KeywordCatalog}

theorem concernsOnly_singleton {index : String} (owned : naming.Owns teamId index) {call : Call}
    (names : call.indexes = [index]) : ConcernsOnly naming teamId call := by
  intro other named
  rw [names, List.mem_singleton] at named
  rw [named]
  exact owned

theorem mem_of_mem_selectIndexes {kind : Option EntityKind}
    {indexes : List (EntityKind × String)} {entry : EntityKind × String}
    (inside : entry ∈ selectIndexes kind indexes) : entry ∈ indexes := by
  unfold selectIndexes at inside
  split at inside
  · exact inside
  · exact List.mem_of_mem_filter inside

theorem plan_owns {planned : Plan} (isPlan : plan catalog naming teamId query = .ok planned)
    {entry : EntityKind × String} (inside : entry ∈ planned.indexes) :
    naming.Owns teamId entry.2 := by
  obtain ⟨indexes, listed, read⟩ := bind_isOk isPlan
  obtain ⟨vocabulary, -, selected⟩ := bind_isOk read
  obtain rfl := Except.ok.inj selected
  exact Naming.owns_of_teamIndexes listed (mem_of_mem_selectIndexes inside)

theorem search_concernsOnly :
    MakesOnly (ConcernsOnly naming teamId)
      (Search.search answers.service catalog naming teamId query limit) := by
  unfold Search.search
  split
  · exact .pure _
  · next planned isPlan =>
      apply MakesOnly.visitAll
      intro entry inside
      apply MakesOnly.bind
      · exact .recordCall (concernsOnly_singleton (plan_owns isPlan inside) rfl)
      · intro earlier
        exact .pure _

theorem listTasks_concernsOnly :
    MakesOnly (ConcernsOnly naming teamId) (listTasks answers.service naming limit teamId) := by
  unfold listTasks
  split
  · exact .pure _
  · next indexes listed =>
      apply MakesOnly.recordCall
      intro index named
      obtain ⟨entry, inside, rfl⟩ := List.mem_map.mp named
      exact Naming.owns_of_teamIndexes listed inside

theorem rebuild_concernsOnly :
    MakesOnly (ConcernsOnly naming teamId) (rebuild answers.service catalog naming teamId) := by
  unfold rebuild
  split
  · exact .pure _
  · next indexes listed =>
      split
      · exact .pure _
      · apply MakesOnly.visitAll
        intro index planned
        obtain ⟨entry, inside, rfl⟩ := List.mem_map.mp planned
        have owned := Naming.owns_of_teamIndexes listed inside
        exact .recordCall (concernsOnly_singleton owned rfl)

end

section

variable {allowed : Call → Prop}
  {list : String → Recorded (Except Failure (List IndexTask))} {watcher : Watcher}

/-- A watcher calls nothing but the listing of its team. -/
theorem Watcher.run_makesOnly (lists : MakesOnly allowed (list watcher.teamId))
    (now : Milliseconds) : MakesOnly allowed (watcher.run list now) := by
  unfold Watcher.run
  split
  · exact .pure _
  · split
    · exact .pure _
    · exact .bind lists fun _ => .pure _

theorem Watcher.run_teamId (now : Milliseconds) (calls : List Call) :
    (watcher.run list now calls).1.teamId = watcher.teamId := by
  rw [Watcher.run]
  cases watcher.phase with
  | left => rfl
  | listing | waiting =>
      cases watcher.stopRequested with
      | true => rfl
      | false => rfl

theorem Watcher.channelsAt_makesOnly (lists : MakesOnly allowed (list watcher.teamId))
    (moments : List Milliseconds) : MakesOnly allowed (watcher.channelsAt list moments) := by
  induction moments generalizing watcher with
  | nil => exact .pure _
  | cons now later inductionHypothesis =>
      apply MakesOnly.bind (Watcher.run_makesOnly lists now)
      intro earlier
      apply MakesOnly.bind
      · apply inductionHypothesis
        rw [Watcher.run_teamId]
        exact lists
      · intro calls
        exact .pure _

end

namespace TeamOperation

variable {naming : Naming} {answers : Answers} {teamId : String}

theorem perform_concernsOnly (operation : TeamOperation) :
    MakesOnly (ConcernsOnly naming teamId) (operation.perform naming answers teamId) := by
  cases operation with
  | search catalog query limit => exact .bind search_concernsOnly fun _ => .pure _
  | listTasks limit => exact .bind listTasks_concernsOnly fun _ => .pure _
  | rebuild catalog => exact .bind rebuild_concernsOnly fun _ => .pure _
  | watch limit interval moments =>
      apply MakesOnly.bind
      · exact Watcher.channelsAt_makesOnly listTasks_concernsOnly moments
      · intro earlier
        exact .pure _

theorem performAll_concernsOnly (operations : List TeamOperation) :
    MakesOnly (ConcernsOnly naming teamId) (performAll naming answers teamId operations) := by
  induction operations with
  | nil => exact .pure _
  | cons operation later inductionHypothesis =>
      exact .bind operation.perform_concernsOnly fun _ => inductionHypothesis

theorem namedIndexes_owned {operations : List TeamOperation} {index : String}
    (named : index ∈ namedIndexes naming answers teamId operations) :
    naming.Owns teamId index := by
  obtain ⟨call, made, inside⟩ := List.mem_flatMap.mp named
  have makes : MakesOnly (ConcernsOnly naming teamId)
      (performAll naming answers teamId operations) := performAll_concernsOnly operations
  obtain ⟨calls, all, concerns⟩ := makes []
  rw [all, List.nil_append] at made
  exact concerns call made index inside

end TeamOperation

/-- The names of the indexes tell the valid teams and the kinds apart. Whatever the service answers,
operations for a team name only its own indexes, and so they name none that operations for another
team name. -/
theorem teams_shareNoIndex (naming : Naming) :
    (Function.Injective fun index : {teamId // IsTeamName teamId} × EntityKind =>
      naming.indexOf index.1 index.2) ∧
    (∀ teamId answers operations,
      ∀ index ∈ TeamOperation.namedIndexes naming answers teamId operations,
        ∃ kind, naming.indexOf teamId kind = .ok index) ∧
    ∀ teamId other, teamId ≠ other → ∀ answers otherAnswers operations otherOperations,
      (TeamOperation.namedIndexes naming answers teamId operations).Disjoint
        (TeamOperation.namedIndexes naming otherAnswers other otherOperations) := by
  refine ⟨Naming.indexOf_injective, ?_, ?_⟩
  · intro teamId answers operations index named
    exact TeamOperation.namedIndexes_owned named
  · intro teamId other different answers otherAnswers operations otherOperations index named others
    have owned := TeamOperation.namedIndexes_owned named
    exact different (owned.team_eq (TeamOperation.namedIndexes_owned others))

/-- Every call succeeds and returns as little as it can. -/
def emptyAnswers : Answers where
  tasks _ := .ok []
  updates _ := .ok ⟨0, none, .enqueued, .settingsUpdate, Time.Instant.epoch⟩
  hits _ := .ok .empty

/-- The second name ends like the beginning of the name of a kind. -/
theorem teams_shareNoIndex_kindEnding :
    "t1" ≠ "t1-asset" ∧
    TeamOperation.namedIndexes .default emptyAnswers "t1" [.listTasks 10] =
      ["t1-assets", "t1-asset-types", "t1-tags"] ∧
    TeamOperation.namedIndexes .default emptyAnswers "t1-asset"
        [.rebuild fun _ => .ok ["serial"]] =
      ["t1-asset-assets", "t1-asset-asset-types", "t1-asset-tags"] ∧
    (TeamOperation.namedIndexes .default emptyAnswers "t1" [.listTasks 10]).Disjoint
      (TeamOperation.namedIndexes .default emptyAnswers "t1-asset"
        [.rebuild fun _ => .ok ["serial"]]) :=
  ⟨by decide, rfl, rfl,
    (teams_shareNoIndex .default).2.2 "t1" "t1-asset" (by decide) emptyAnswers emptyAnswers
      [.listTasks 10] [.rebuild fun _ => .ok ["serial"]]⟩

end AssetSearch.Tasks

/-
This file holds what is known of the tasks of a team after some listings.
-/

import AssetSearch.Failure
import AssetSearch.Index.Task

namespace AssetSearch.Tasks

open AssetSearch.Index
open AssetSearch.Json
open AssetSearch.Time

/-- The tasks and the time come from the last listing that succeeded. -/
structure Snapshot (Moment : Type) where
  tasks : List IndexTask
  refreshedAt : Option Moment
  lastError : Option String
  deriving DecidableEq, Repr

namespace Snapshot

def empty {Moment : Type} : Snapshot Moment := ⟨[], none, none⟩

/-- A listing that fails changes the error alone. -/
def afterListing {Moment : Type} (snapshot : Snapshot Moment) (moment : Moment) :
    Except Failure (List IndexTask) → Snapshot Moment
  | .ok tasks => ⟨tasks, some moment, none⟩
  | .error failure => { snapshot with lastError := some failure.text }

def failed {Moment : Type} (snapshot : Snapshot Moment) : List IndexTask :=
  snapshot.tasks.filter (·.status.isFailed)

def pending {Moment : Type} (snapshot : Snapshot Moment) : List IndexTask :=
  snapshot.tasks.filter (·.status.isPending)

def toJson (snapshot : Snapshot Instant) : Value :=
  .object [
    ("tasks", .ofList IndexTask.toJson snapshot.tasks),
    ("refreshedAt", .ofOption (fun moment => .text (Rfc3339.text moment)) snapshot.refreshedAt),
    ("lastError", .ofOption .text snapshot.lastError)]

end Snapshot

end AssetSearch.Tasks

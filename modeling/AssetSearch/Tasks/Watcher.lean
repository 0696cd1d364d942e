/-
This file holds watchers, which list the tasks of a team again and again, publish what they learn
and wait between two listings until they are asked to stop.
-/

import AssetSearch.Tasks.Channel
import AssetSearch.Tasks.Snapshot

namespace AssetSearch.Tasks

open AssetSearch.Index

/-- Moments count milliseconds. -/
abbrev Milliseconds := Nat

/-- A poll loop is about to begin a listing, or waits for the next one, or has been left. -/
inductive LoopPhase where
  | listing
  | waiting (wakeTime : Milliseconds)
  | left
  deriving DecidableEq, Repr

structure Watcher where
  teamId : String
  interval : Milliseconds
  channel : Channel (Snapshot Milliseconds)
  phase : LoopPhase
  stopRequested : Bool
  owner : Receiver
  subscriber : Receiver
  deriving Repr

namespace Watcher

def start (teamId : String) (interval : Milliseconds) : Watcher :=
  ⟨teamId, interval, .create .empty, .listing, false, ⟨0⟩, ⟨0⟩⟩

/-- A watcher that was asked to stop no longer counts as running. -/
def isRunning (watcher : Watcher) : Bool :=
  !watcher.stopRequested && watcher.phase != .left

def stop (watcher : Watcher) : Watcher :=
  { watcher with stopRequested := true }

/-- The channel ends with the loop. -/
def leave (watcher : Watcher) : Watcher :=
  { watcher with phase := .left, channel := watcher.channel.close }

/-- The result of a listing is published, and the wait for the next one begins. -/
def afterListing (watcher : Watcher) (now : Milliseconds)
    (result : Except Failure (List IndexTask)) : Watcher :=
  { watcher with
    phase := .waiting (now + watcher.interval)
    channel := watcher.channel.publish fun snapshot => snapshot.afterListing now result }

/-- A stopped loop is left before it begins another listing. -/
def run {Effect : Type → Type} [Monad Effect]
    (list : String → Effect (Except Failure (List IndexTask))) (now : Milliseconds)
    (watcher : Watcher) : Effect Watcher :=
  match watcher.phase with
  | .left => return watcher
  | _ =>
      if watcher.stopRequested then return watcher.leave
      else do
        let result ← list watcher.teamId
        return watcher.afterListing now result

/-- This is the moment at which the loop goes on by itself. -/
def wakeTime? (watcher : Watcher) : Option Milliseconds :=
  match watcher.phase with
  | .waiting moment => some moment
  | _ => none

end Watcher

end AssetSearch.Tasks

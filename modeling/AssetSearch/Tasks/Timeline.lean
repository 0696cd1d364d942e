/-
This file runs watchers on a clock that stands still while there is something to do, and then goes
on to the next moment at which a watcher or its observer wakes up.
-/

import AssetSearch.Tasks.Watcher

namespace AssetSearch.Tasks

open AssetSearch.Index

/-- Watchers have numbers in the order of their start, and those that can go on are queued. -/
structure Timeline where
  now : Milliseconds
  watchers : List Watcher
  ready : List Nat
  deriving Repr

namespace Timeline

def start : Timeline := ⟨0, [], []⟩

def update (timeline : Timeline) (number : Nat) (change : Watcher → Watcher) : Timeline :=
  { timeline with watchers := timeline.watchers.modify number change }

/-- The loop of a new watcher begins as soon as the observer waits. -/
def watch (timeline : Timeline) (teamId : String) (interval : Milliseconds) : Nat × Timeline :=
  let number := timeline.watchers.length
  (number,
    { timeline with
      watchers := timeline.watchers ++ [Watcher.start teamId interval]
      ready := timeline.ready ++ [number] })

/-- A waiting loop can go on when it is asked to stop. -/
def stop (timeline : Timeline) (number : Nat) : Timeline :=
  let stopped := timeline.update number Watcher.stop
  if (timeline.watchers[number]?.bind Watcher.wakeTime?).isSome then
    { stopped with ready := stopped.ready ++ [number] }
  else stopped

section

variable {Effect : Type → Type} [Monad Effect]

/-- The queued loops run in order. -/
def runAll (list : String → Effect (Except Failure (List IndexTask))) :
    List Nat → Timeline → Effect Timeline
  | [], timeline => return timeline
  | number :: later, timeline =>
      match timeline.watchers[number]? with
      | none => runAll list later timeline
      | some watcher => do
          let watcher ← watcher.run list timeline.now
          runAll list later (timeline.update number fun _ => watcher)

def runReady (list : String → Effect (Except Failure (List IndexTask))) (timeline : Timeline) :
    Effect Timeline :=
  runAll list timeline.ready { timeline with ready := [] }

/-- These are the moments at which loops wake up by themselves. -/
def wakeTimes (timeline : Timeline) : List Milliseconds :=
  timeline.watchers.filterMap Watcher.wakeTime?

/-- The loops that wake up at this moment or before are queued. -/
def advance (timeline : Timeline) (moment : Milliseconds) : Timeline :=
  let woken := timeline.watchers.zipIdx.filterMap fun (watcher, number) =>
    watcher.wakeTime?.bind fun wakeTime => if wakeTime ≤ moment then some number else none
  { timeline with now := max timeline.now moment, ready := timeline.ready ++ woken }

/-- Loops run as they wake up before the goal is reached; those that wake up with it do not. -/
def runUntil (list : String → Effect (Except Failure (List IndexTask))) (goal : Milliseconds) :
    (steps : Nat) → Timeline → Effect Timeline
  | 0, timeline => return timeline.advance goal
  | steps + 1, timeline => do
      let timeline ← timeline.runReady list
      match timeline.wakeTimes.min? with
      | none => return timeline.advance goal
      | some moment =>
          if moment < goal then runUntil list goal steps (timeline.advance moment)
          else return timeline.advance goal

/-- The clock passes through at most one wake up in each millisecond. -/
def sleep (list : String → Effect (Except Failure (List IndexTask)))
    (duration : Milliseconds) (timeline : Timeline) : Effect Timeline :=
  if duration = 0 then return timeline
  else timeline.runUntil list (timeline.now + duration) (duration + 1)

/-- The observer waits for a watcher whose channel has nothing to report. -/
def awaitReport (list : String → Effect (Except Failure (List IndexTask))) (number : Nat)
    (timeline : Timeline) : Effect Timeline := do
  let timeline ← timeline.runReady list
  match timeline.watchers[number]? with
  | none => return timeline
  | some watcher =>
      match watcher.channel.wait watcher.owner, watcher.wakeTime? with
      | .blocked, some moment =>
          let timeline ← timeline.runUntil list moment (moment - timeline.now + 1)
          timeline.runReady list
      | _, _ => return timeline

/-- This is the next snapshot that the owner has not seen, or nothing after the last one. -/
def takeReport (timeline : Timeline) (number : Nat) :
    Option (Snapshot Milliseconds) × Timeline :=
  match timeline.watchers[number]? with
  | none => (none, timeline)
  | some watcher =>
      match watcher.channel.wait watcher.owner with
      | .changed =>
          (some watcher.channel.value,
            timeline.update number fun watcher =>
              { watcher with owner := watcher.channel.catchUp })
      | _ => (none, timeline)

/-- The owner waits only when there is nothing to report yet. -/
def changed (list : String → Effect (Except Failure (List IndexTask))) (number : Nat)
    (timeline : Timeline) : Effect (Option (Snapshot Milliseconds) × Timeline) := do
  let isBlocked := timeline.watchers[number]?.any fun watcher =>
    watcher.channel.wait watcher.owner == .blocked
  if isBlocked then
    let timeline ← timeline.awaitReport list number
    return timeline.takeReport number
  else return timeline.takeReport number

/-- The owner waits until the loop has been left. -/
def shutdown (list : String → Effect (Except Failure (List IndexTask))) (number : Nat)
    (timeline : Timeline) : Effect Timeline :=
  let stopped := timeline.stop number
  if stopped.watchers[number]?.any (·.phase != .left) then stopped.runReady list
  else return stopped

end

end Timeline

end AssetSearch.Tasks

/-
This file holds the schedules of a poll loop. The loop polls the two branches of a select in any
order, and calls of its owner and the passing of time come between any two of its steps.
-/

import AssetSearch.Proofs.Tasks.PollSummary

namespace AssetSearch.Tasks

open AssetSearch.Index

/-- A select waits for a stop and for the work of its phase, a listing or a pause. -/
inductive Branch where
  | stop
  | work
  deriving DecidableEq, Repr

def Branch.other : Branch → Branch
  | .stop => .work
  | .work => .stop

/-- The round holds the branches that are still to be polled before any is polled again. -/
structure Select where
  round : List Branch
  awaitsStop : Bool
  notified : Bool
  started : Bool
  deriving DecidableEq, Repr

namespace Select

/-- No branch of a new select has been polled. -/
def fresh : Select := ⟨[], false, false, false⟩

/-- The branch may be polled now, and the rest of the round after it. -/
def Due (select : Select) (branch : Branch) (rest : List Branch) : Prop :=
  select.round = branch :: rest ∨ select.round = [] ∧ rest = [branch.other]

end Select

/-- The first five are steps of the loop, and the others come from outside. -/
inductive Action where
  | pending
  | began
  | published
  | woke
  | left
  | stopped
  | notified
  | passed
  | aborted
  | joined
  deriving DecidableEq, Repr

def Action.isOfLoop : Action → Bool
  | .pending | .began | .published | .woke | .left => true
  | .stopped | .notified | .passed | .aborted | .joined => false

structure Event where
  action : Action
  moment : Milliseconds
  deriving DecidableEq, Repr

structure Loop where
  watcher : Watcher
  now : Milliseconds
  select : Select
  deriving Repr

namespace Loop

def start (teamId : String) (interval now : Milliseconds) : Loop :=
  ⟨.start teamId interval, now, .fresh⟩

/-- The first poll looks for the request itself, and later ones wait to be notified of it. -/
def seesStop (loop : Loop) : Bool :=
  if loop.select.awaitsStop then loop.select.notified else loop.watcher.stopRequested

/-- A listing in flight is given up. -/
def leave (loop : Loop) : Loop := { loop with watcher := loop.watcher.leave, select := .fresh }

/-- The answer of a listing ends the select, and a new one begins. -/
def publish (loop : Loop) (answer : Except Failure (List IndexTask)) : Loop :=
  { loop with watcher := loop.watcher.afterListing loop.now answer, select := .fresh }

def wake (loop : Loop) : Loop :=
  { loop with watcher := { loop.watcher with phase := .listing }, select := .fresh }

def setSelect (loop : Loop) (select : Select) : Loop := { loop with select := select }

/-- A listing takes any number of polls. A timer may be late, and the first poll of a pause that is
not empty only sets it. -/
inductive Step : Loop → Action → Loop → Prop where
  | awaitStop (loop : Loop) (rest : List Branch) (going : loop.watcher.phase ≠ .left)
      (due : loop.select.Due .stop rest) (unseen : loop.seesStop = false) :
      Step loop .pending (loop.setSelect { loop.select with round := rest, awaitsStop := true })
  | leave (loop : Loop) (rest : List Branch) (going : loop.watcher.phase ≠ .left)
      (due : loop.select.Due .stop rest) (seen : loop.seesStop = true) :
      Step loop .left loop.leave
  | begin (loop : Loop) (rest : List Branch) (listing : loop.watcher.phase = .listing)
      (due : loop.select.Due .work rest) (unstarted : loop.select.started = false) :
      Step loop .began
        (loop.setSelect { loop.select with round := .work :: rest, started := true })
  | awaitAnswer (loop : Loop) (rest : List Branch) (listing : loop.watcher.phase = .listing)
      (due : loop.select.Due .work rest) (started : loop.select.started = true) :
      Step loop .pending (loop.setSelect { loop.select with round := rest })
  | publish (loop : Loop) (rest : List Branch) (answer : Except Failure (List IndexTask))
      (listing : loop.watcher.phase = .listing) (due : loop.select.Due .work rest)
      (started : loop.select.started = true) :
      Step loop .published (loop.publish answer)
  | pause (loop : Loop) (rest : List Branch) (wakeTime : Milliseconds)
      (waiting : loop.watcher.phase = .waiting wakeTime) (due : loop.select.Due .work rest) :
      Step loop .pending (loop.setSelect { loop.select with round := rest, started := true })
  | wake (loop : Loop) (rest : List Branch) (wakeTime : Milliseconds)
      (waiting : loop.watcher.phase = .waiting wakeTime) (due : loop.select.Due .work rest)
      (reached : wakeTime ≤ loop.now)
      (set : loop.select.started = true ∨ loop.watcher.interval = 0) :
      Step loop .woke loop.wake
  | stop (loop : Loop) : Step loop .stopped { loop with watcher := loop.watcher.stop }
  | notify (loop : Loop) (requested : loop.watcher.stopRequested = true) :
      Step loop .notified
        (loop.setSelect { loop.select with notified := loop.select.awaitsStop })
  | pass (loop : Loop) (duration : Milliseconds) :
      Step loop .passed { loop with now := loop.now + duration }
  | abort (loop : Loop) (going : loop.watcher.phase ≠ .left)
      (requested : loop.watcher.stopRequested = true) :
      Step loop .aborted loop.leave
  | join (loop : Loop) (ended : loop.watcher.phase = .left) : Step loop .joined loop

/-- An event is written down with the moment before its step. -/
inductive Run : Loop → List Event → Loop → Prop where
  | nil (loop : Loop) : Run loop [] loop
  | cons {first second last : Loop} {action : Action} {trace : List Event}
      (step : Step first action second) (rest : Run second trace last) :
      Run first (⟨action, first.now⟩ :: trace) last

variable {first second last : Loop} {action : Action} {event : Event}
  {trace before after : List Event}

theorem Run.of_cons (run : Run first (event :: trace) last) :
    ∃ second, Step first event.action second ∧ event.moment = first.now ∧
      Run second trace last := by
  cases run with
  | cons step rest => exact ⟨_, step, rfl, rest⟩

theorem Run.of_append (run : Run first (before ++ after) last) :
    ∃ middle, Run first before middle ∧ Run middle after last := by
  induction before generalizing first with
  | nil => exact ⟨first, .nil first, run⟩
  | cons event before inductionHypothesis =>
      obtain ⟨second, step, moment, rest⟩ := run.of_cons
      obtain ⟨middle, firstPart, lastPart⟩ := inductionHypothesis rest
      obtain ⟨action, _⟩ := event
      obtain rfl := moment
      exact ⟨middle, .cons step firstPart, lastPart⟩

/-- What every step keeps is kept by every run. -/
theorem Run.keeps {Kept : Loop → Prop}
    (kept : ∀ (first second : Loop) (action : Action), Step first action second →
      Kept first → Kept second)
    (run : Run first trace last) (holds : Kept first) : Kept last := by
  induction run with
  | nil => exact holds
  | cons step _ inductionHypothesis => exact inductionHypothesis (kept _ _ _ step holds)

theorem Step.interval_eq (step : Step first action second) :
    second.watcher.interval = first.watcher.interval := by
  cases step <;> rfl

/-- A stop is never taken back. -/
theorem Step.stopRequested (step : Step first action second)
    (requested : first.watcher.stopRequested = true) :
    second.watcher.stopRequested = true := by
  cases step with
  | stop => rfl
  | _ => exact requested

/-- A loop that has been left takes no step of its own. -/
theorem Step.ofLeft (step : Step first action second) (ended : first.watcher.phase = .left) :
    action.isOfLoop = false ∧ second.watcher.phase = .left := by
  cases step with
  | awaitStop _ going | leave _ going | abort going => exact absurd ended going
  | begin _ listing | awaitAnswer _ listing | publish _ _ listing => simp [ended] at listing
  | pause _ _ waiting | wake _ _ waiting => simp [ended] at waiting
  | stop | notify | pass | join => exact ⟨rfl, ended⟩

theorem Run.ofLeft (run : Run first trace last) (ended : first.watcher.phase = .left) :
    ∀ event ∈ trace, event.action.isOfLoop = false := by
  induction run with
  | nil => nofun
  | cons step _ inductionHypothesis =>
      obtain ⟨outside, stillEnded⟩ := step.ofLeft ended
      intro event inside
      rcases List.mem_cons.mp inside with rfl | later
      · exact outside
      · exact inductionHypothesis stillEnded event later

variable {loop : Loop}

/-- Once its waiters are notified, a loop between two rounds sees the request. -/
theorem exists_run_leave (rested : loop.select.round = []) (going : loop.watcher.phase ≠ .left)
    (requested : loop.watcher.stopRequested = true) :
    ∃ trace last, Run loop trace last ∧ last.watcher = loop.watcher.leave := by
  have notified := Step.notify loop requested
  have seen : (loop.setSelect
      { loop.select with notified := loop.select.awaitsStop }).seesStop = true := by
    simp [seesStop, setSelect, requested]
  exact ⟨_, _, .cons notified (.cons (.leave _ [.work] going (.inr ⟨rested, rfl⟩) seen) (.nil _)),
    rfl⟩

theorem exists_run_publish (rested : loop.select.round = [])
    (listing : loop.watcher.phase = .listing) (answer : Except Failure (List IndexTask)) :
    ∃ trace last, Run loop trace last ∧
      last.watcher = loop.watcher.afterListing loop.now answer := by
  have due : loop.select.Due .work [.stop] := .inr ⟨rested, rfl⟩
  cases started : loop.select.started with
  | true => exact ⟨_, _, .cons (.publish loop [.stop] answer listing due started) (.nil _), rfl⟩
  | false =>
      have began := Step.begin loop [.stop] listing due started
      exact ⟨_, _, .cons began (.cons (.publish _ [.stop] answer listing (.inl rfl) rfl) (.nil _)),
        rfl⟩

/-- The answer may be there as soon as the pause ends. -/
theorem exists_run_publish_of_going (rested : loop.select.round = [])
    (going : loop.watcher.phase ≠ .left)
    (reached : ∀ wakeTime, loop.watcher.phase = .waiting wakeTime →
      wakeTime ≤ loop.now ∧ loop.select.started = true)
    (answer : Except Failure (List IndexTask)) :
    ∃ trace last, Run loop trace last ∧
      last.watcher = loop.watcher.afterListing loop.now answer := by
  cases phase : loop.watcher.phase with
  | left => exact absurd phase going
  | listing => exact exists_run_publish rested phase answer
  | waiting wakeTime =>
      obtain ⟨inTime, started⟩ := reached wakeTime phase
      have woke := Step.wake loop [.stop] wakeTime phase (.inr ⟨rested, rfl⟩) inTime (.inl started)
      have woken : loop.wake.select.round = [] := rfl
      obtain ⟨trace, last, run, published⟩ := exists_run_publish woken rfl answer
      exact ⟨_, last, .cons woke run, published⟩

/-- A watcher that runs at a moment follows one of the schedules of its loop. -/
theorem exists_run_of_watcherRun (rested : loop.select.round = [])
    (reached : ∀ wakeTime, loop.watcher.phase = .waiting wakeTime →
      wakeTime ≤ loop.now ∧ loop.select.started = true)
    (answer : Except Failure (List IndexTask)) :
    ∃ trace last, Run loop trace last ∧
      loop.watcher.run (fun _ => (pure answer : Id _)) loop.now = pure last.watcher := by
  by_cases hasEnded : loop.watcher.phase = .left
  · exact ⟨[], loop, .nil loop, by rw [Watcher.run, hasEnded]⟩
  · cases requested : loop.watcher.stopRequested with
    | true =>
        obtain ⟨trace, last, run, left⟩ := exists_run_leave rested hasEnded requested
        exact ⟨trace, last, run, by rw [left, Watcher.run_of_requested hasEnded requested]⟩
    | false =>
        obtain ⟨trace, last, run, published⟩ :=
          exists_run_publish_of_going rested hasEnded reached answer
        refine ⟨trace, last, run, ?_⟩
        rw [published, Watcher.run_of_unrequested hasEnded requested]
        rfl

end Loop

end AssetSearch.Tasks

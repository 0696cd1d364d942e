/-
This file shows that a stop bounds what a poll loop still does, under every schedule. At most one
more listing begins, at most one more answer is published, and no listing follows the end.
-/

import AssetSearch.Proofs.Tasks.PollSchedules

namespace AssetSearch.Tasks

open AssetSearch.Index

def occurrences (action : Action) (trace : List Event) : Nat :=
  trace.countP (·.action == action)

/-- Nothing of what comes from outside is among these. -/
def loopActions (trace : List Event) : List Action :=
  (trace.map Event.action).filter Action.isOfLoop

namespace Loop

/-- A listing is in flight from its first poll to its answer. -/
def inFlight (loop : Loop) : Nat :=
  match loop.watcher.phase with
  | .listing => if loop.select.started then 1 else 0
  | _ => 0

/-- At most one listing is in flight, and a whole pause lies between an answer and the next
listing. A stop leaves room for one more listing and one more answer, after which the loop can only
be left, and nothing follows the end of the loop. -/
structure IsBounded (interval : Milliseconds) (trace : List Event) (last : Loop) : Prop where
  publications : last.watcher.channel.publications = occurrences .published trace
  oneInFlight : ∀ before, before <+: trace →
    occurrences .published before ≤ occurrences .began before ∧
      occurrences .began before ≤ occurrences .published before + 1
  apart : ∀ before publication middle beginning after,
    trace = before ++ ⟨.published, publication⟩ :: (middle ++ ⟨.began, beginning⟩ :: after) →
      publication + interval ≤ beginning
  afterStop : ∀ before moment after, trace = before ++ ⟨.stopped, moment⟩ :: after →
    occurrences .began after ≤ 1 ∧ occurrences .published after ≤ 1
  afterLast : ∀ before moment middle publication after,
    trace = before ++ ⟨.stopped, moment⟩ :: (middle ++ ⟨.published, publication⟩ :: after) →
      (loopActions after <+: [.left] ∨ loopActions after <+: [.pending, .left]) ∧
        (last.watcher.phase = .left ∨ ∃ next, Step last .left next)
  afterEnd : ∀ before action moment after, action ∈ [.left, .aborted, .joined] →
    trace = before ++ ⟨action, moment⟩ :: after → loopActions after = []

end Loop

section

variable {action counted : Action} {moment : Milliseconds} {trace : List Event}

@[simp]
theorem occurrences_nil : occurrences action [] = 0 := rfl

@[simp]
theorem occurrences_cons :
    occurrences counted (⟨action, moment⟩ :: trace) =
      occurrences counted trace + if action = counted then 1 else 0 := by
  simp [occurrences, List.countP_cons]

theorem loopActions_cons :
    loopActions (⟨action, moment⟩ :: trace) =
      if action.isOfLoop then action :: loopActions trace else loopActions trace := by
  simp [loopActions, List.filter_cons]

theorem loopActions_eq_nil (outside : ∀ event ∈ trace, event.action.isOfLoop = false) :
    loopActions trace = [] := by
  simpa [loopActions] using outside

/-- Actions that the loop does not take do not occur. -/
theorem occurrences_eq_zero (ofLoop : counted.isOfLoop = true)
    (outside : ∀ event ∈ trace, event.action.isOfLoop = false) :
    occurrences counted trace = 0 := by
  refine List.countP_eq_zero.mpr fun event inside same => ?_
  have notOfLoop := outside event inside
  rw [beq_iff_eq.mp same, ofLoop] at notOfLoop
  contradiction

end

namespace Loop

variable {first second last : Loop} {action counted : Action} {trace : List Event}
  {deadline : Milliseconds}

/-- A loop that has not found the stop branch pending has polled its work at most once. -/
def IsOrderly (loop : Loop) : Prop :=
  loop.select.awaitsStop = false →
    loop.select.round = [] ∧ loop.select.started = false ∨ loop.select.round = [.stop] ∨
      loop.select.round = [.work, .stop] ∧ loop.watcher.phase = .listing

theorem Step.publications (step : Step first action second) :
    second.watcher.channel.publications =
      first.watcher.channel.publications + if action = .published then 1 else 0 := by
  cases step <;> rfl

theorem Run.publications (run : Run first trace last) :
    last.watcher.channel.publications =
      first.watcher.channel.publications + occurrences .published trace := by
  induction run with
  | nil => rfl
  | cons step _ inductionHypothesis =>
      rw [inductionHypothesis, step.publications, occurrences_cons]
      omega

/-- A listing begins only when none is in flight, and only the end of the loop cuts it off. -/
theorem Step.inFlight (step : Step first action second) :
    second.inFlight + (if action = .published then 1 else 0) =
        first.inFlight + (if action = .began then 1 else 0) ∨
      (action ≠ .began ∧ action ≠ .published) ∧ second.watcher.phase = .left := by
  cases step with
  | leave | abort => exact .inr ⟨⟨nofun, nofun⟩, rfl⟩
  | begin _ listing _ unstarted => simp [Loop.inFlight, setSelect, listing, unstarted]
  | publish _ _ listing _ started =>
      simp [Loop.inFlight, Loop.publish, Watcher.afterListing, listing, started]
  | pause _ _ waiting => simp [Loop.inFlight, setSelect, waiting]
  | wake _ _ waiting => simp [Loop.inFlight, Loop.wake, Select.fresh, waiting]
  | awaitStop | awaitAnswer | stop | notify | pass | join => exact .inl rfl

theorem inFlight_le_one (loop : Loop) : loop.inFlight ≤ 1 := by
  unfold inFlight
  split
  · split <;> decide
  · decide

/-- What has begun has been answered, or is in flight, or was given up at the end. -/
theorem Run.inFlight (run : Run first trace last) :
    occurrences .published trace ≤ occurrences .began trace + first.inFlight ∧
      occurrences .began trace + first.inFlight ≤ occurrences .published trace + 1 := by
  induction run with
  | nil loop => simpa using loop.inFlight_le_one
  | @cons first second last action trace step rest inductionHypothesis =>
      rcases step.inFlight with balanced | ⟨⟨notBegan, notPublished⟩, ended⟩
      · simp only [occurrences_cons]
        omega
      · -- A listing in flight is given up, and none follows it.
        have outside := rest.ofLeft ended
        have began : occurrences .began trace = 0 := occurrences_eq_zero rfl outside
        have published : occurrences .published trace = 0 := occurrences_eq_zero rfl outside
        have := first.inFlight_le_one
        simp only [occurrences_cons, began, published, notBegan, notPublished, if_false]
        omega

theorem Step.now_le (step : Step first action second) : first.now ≤ second.now := by
  cases step with
  | pass duration => exact Nat.le_add_right first.now duration
  | _ => exact Nat.le_refl _

/-- No listing begins before the deadline. -/
def Rests (deadline : Milliseconds) (loop : Loop) : Prop :=
  loop.watcher.phase = .left ∨
    (∃ wakeTime, loop.watcher.phase = .waiting wakeTime ∧ deadline ≤ wakeTime) ∨
      deadline ≤ loop.now

theorem Step.rests (step : Step first action second) (rests : first.Rests deadline) :
    second.Rests deadline := by
  obtain ended | ⟨wakeTime, waiting, late⟩ | reached := rests
  · exact .inl (step.ofLeft ended).2
  · cases step with
    | leave | abort => exact .inl rfl
    | awaitStop | pause | stop | notify | pass => exact .inr (.inl ⟨wakeTime, waiting, late⟩)
    | wake _ woken same _ reached =>
        obtain rfl := LoopPhase.waiting.inj (waiting.symm.trans same)
        exact .inr (.inr (Nat.le_trans late reached))
    | begin _ listing | awaitAnswer _ listing | publish _ _ listing => simp [waiting] at listing
    | join ended => simp [waiting] at ended
  · exact .inr (.inr (Nat.le_trans reached step.now_le))

theorem Step.rests_of_published (step : Step first .published second) :
    second.Rests (first.now + first.watcher.interval) := by
  cases step with
  | publish => exact .inr (.inl ⟨_, rfl, Nat.le_refl _⟩)

theorem Step.deadline_le (step : Step first .began second) (rests : first.Rests deadline) :
    deadline ≤ first.now := by
  cases step with
  | begin _ listing => simpa [Rests, listing] using rests

/-- A stop was requested, and pauses are not empty. -/
structure IsStopping (loop : Loop) : Prop where
  positive : 0 < loop.watcher.interval
  orderly : loop.IsOrderly
  requested : loop.watcher.stopRequested = true

/-- So many listings or answers may still follow a stop. -/
def remaining (counted : Action) (loop : Loop) : Nat :=
  match loop.watcher.phase with
  | .listing => if loop.select.started = true ∧ counted = .began then 0 else 1
  | .waiting _ => if loop.select.awaitsStop then 1 else 0
  | .left => 0

theorem remaining_le_one (loop : Loop) : loop.remaining counted ≤ 1 := by
  unfold remaining
  split
  · split <;> decide
  · split <;> decide
  · decide

theorem IsOrderly.due_work {loop : Loop} {rest : List Branch} (orderly : loop.IsOrderly)
    (unawaited : loop.select.awaitsStop = false) (due : loop.select.Due .work rest) :
    rest = [.stop] ∧ (loop.select.started = false ∨ loop.watcher.phase = .listing) := by
  obtain ⟨empty, unstarted⟩ | stop | ⟨both, listing⟩ := orderly unawaited
  · simp only [Select.Due, empty] at due
    simpa [Branch.other, unstarted] using due
  · simp [Select.Due, stop] at due
  · obtain round | ⟨empty, -⟩ := due
    · exact ⟨(List.cons.inj (both.symm.trans round)).2.symm, .inr listing⟩
    · exact absurd (both.symm.trans empty) nofun

/-- The stop branch is polled before the work is polled a second time. -/
theorem Step.isOrderly (step : Step first action second) (orderly : first.IsOrderly) :
    second.IsOrderly := by
  cases step with
  | awaitStop => exact nofun
  | begin _ listing due =>
      intro unawaited
      obtain ⟨rfl, -⟩ := orderly.due_work unawaited due
      exact .inr (.inr ⟨rfl, listing⟩)
  | awaitAnswer _ _ due | pause _ _ _ due =>
      intro unawaited
      obtain ⟨rfl, -⟩ := orderly.due_work unawaited due
      exact .inr (.inl rfl)
  | leave | publish | wake | abort => exact fun _ => .inl ⟨rfl, rfl⟩
  | stop | notify | pass | join => exact orderly

theorem Step.isStopping (step : Step first action second) (stopping : first.IsStopping) :
    second.IsStopping where
  positive := step.interval_eq ▸ stopping.positive
  orderly := step.isOrderly stopping.orderly
  requested := step.stopRequested stopping.requested

/-- The pause ends after a stop only if the stop branch was pending before the request. -/
theorem IsStopping.awaitsStop {loop : Loop} {rest : List Branch} {wakeTime : Milliseconds}
    (stopping : loop.IsStopping) (waiting : loop.watcher.phase = .waiting wakeTime)
    (due : loop.select.Due .work rest)
    (set : loop.select.started = true ∨ loop.watcher.interval = 0) :
    loop.select.awaitsStop = true := by
  have started := set.resolve_right (Nat.ne_of_gt stopping.positive)
  cases awaited : loop.select.awaitsStop with
  | true => rfl
  | false =>
      obtain unstarted | listing := (stopping.orderly.due_work awaited due).2
      · exact absurd (started.symm.trans unstarted) nofun
      · exact absurd (waiting.symm.trans listing) nofun

/-- The stop branch of a stopping loop stays pending only if it has been pending before. -/
theorem IsStopping.awaitsStop_of_unseen {loop : Loop} (stopping : loop.IsStopping)
    (unseen : loop.seesStop = false) : loop.select.awaitsStop = true := by
  cases awaited : loop.select.awaitsStop with
  | true => rfl
  | false => simp [seesStop, awaited, stopping.requested] at unseen

/-- What a step begins or publishes is no longer to come. -/
theorem Step.remaining (step : Step first action second) (stopping : first.IsStopping)
    (ofListing : counted = .began ∨ counted = .published) :
    second.remaining counted + (if action = counted then 1 else 0) ≤ first.remaining counted := by
  cases step with
  | awaitStop _ _ _ unseen =>
      have awaited := stopping.awaitsStop_of_unseen unseen
      obtain rfl | rfl := ofListing
      all_goals
        simp only [Loop.remaining, setSelect, awaited]
        exact Nat.le_refl _
  | begin _ listing _ unstarted =>
      obtain rfl | rfl := ofListing <;> simp [Loop.remaining, setSelect, listing, unstarted]
  | publish _ _ listing _ started =>
      obtain rfl | rfl := ofListing <;>
        simp [Loop.remaining, Loop.publish, Watcher.afterListing, Select.fresh, listing, started]
  | pause _ _ waiting =>
      obtain rfl | rfl := ofListing
      all_goals
        simp only [Loop.remaining, setSelect, waiting]
        exact Nat.le_refl _
  | wake _ _ waiting due _ set =>
      -- The end of the pause has met the stop, and the next select looks for the request itself.
      have awaited := stopping.awaitsStop waiting due set
      obtain rfl | rfl := ofListing <;>
        simp [Loop.remaining, Loop.wake, Select.fresh, waiting, awaited]
  | leave | abort => obtain rfl | rfl := ofListing <;> exact Nat.zero_le _
  | awaitAnswer | stop | notify | pass | join =>
      obtain rfl | rfl := ofListing <;> exact Nat.le_refl _

/-- Every occurrence after a stop uses up what remains. -/
theorem Run.occurrences_le_one (run : Run first trace last) (stopping : first.IsStopping)
    (ofListing : counted = .began ∨ counted = .published) :
    occurrences counted trace ≤ 1 := by
  have bounded : occurrences counted trace ≤ first.remaining counted := by
    induction run with
    | nil => exact Nat.zero_le _
    | cons step _ inductionHypothesis =>
        have now := step.remaining stopping ofListing
        have later := inductionHypothesis (step.isStopping stopping)
        rw [occurrences_cons]
        omega
  exact Nat.le_trans bounded first.remaining_le_one

/-- An answer was published after the stop, and the stop branch has not been polled since. -/
structure IsClosing (loop : Loop) : Prop where
  stopping : loop.IsStopping
  waiting : ∃ wakeTime, loop.watcher.phase = .waiting wakeTime
  unawaited : loop.select.awaitsStop = false

theorem Step.isClosing_of_published (step : Step first .published second)
    (stopping : first.IsStopping) : second.IsClosing := by
  have next := step.isStopping stopping
  cases step with
  | publish => exact ⟨next, ⟨_, rfl⟩, rfl⟩

namespace IsClosing

variable {loop : Loop}

theorem round (closing : loop.IsClosing) :
    loop.select.round = [] ∧ loop.select.started = false ∨ loop.select.round = [.stop] := by
  obtain ⟨wakeTime, waiting⟩ := closing.waiting
  obtain empty | stop | ⟨-, listing⟩ := closing.stopping.orderly closing.unawaited
  · exact .inl empty
  · exact .inr stop
  · exact absurd (waiting.symm.trans listing) nofun

theorem seesStop (closing : loop.IsClosing) : loop.seesStop = true := by
  rw [Loop.seesStop, closing.unawaited]
  exact closing.stopping.requested

/-- The request is found as soon as the stop branch is polled. -/
theorem exists_left (closing : loop.IsClosing) : ∃ next, Step loop .left next := by
  obtain ⟨wakeTime, waiting⟩ := closing.waiting
  have going : loop.watcher.phase ≠ .left := by simp [waiting]
  obtain ⟨empty, -⟩ | stop := closing.round
  · exact ⟨_, .leave loop [.work] going (.inr ⟨empty, rfl⟩) closing.seesStop⟩
  · exact ⟨_, .leave loop [] going (.inl stop) closing.seesStop⟩

/-- The pause is polled once at most, and then the loop is left. -/
theorem step (closing : first.IsClosing) (step : Step first action second) :
    action.isOfLoop = false ∧ second.IsClosing ∧ second.select.round = first.select.round ∨
      action = .pending ∧ second.IsClosing ∧ first.select.round = [] ∧
        second.select.round = [.stop] ∨
      (action = .left ∨ action = .aborted) ∧ second.watcher.phase = .left := by
  obtain ⟨wakeTime, waiting⟩ := closing.waiting
  have stopping := step.isStopping closing.stopping
  cases step with
  | awaitStop _ _ _ unseen => exact absurd (closing.seesStop.symm.trans unseen) nofun
  | begin _ listing | awaitAnswer _ listing | publish _ _ listing =>
      exact absurd (waiting.symm.trans listing) nofun
  | pause rest _ _ due =>
      obtain ⟨rfl, -⟩ := closing.stopping.orderly.due_work closing.unawaited due
      obtain ⟨empty, -⟩ | stop := closing.round
      · exact .inr (.inl ⟨rfl, ⟨stopping, closing.waiting, closing.unawaited⟩, empty, rfl⟩)
      · simp [Select.Due, stop] at due
  | wake _ _ same due _ set =>
      have awaited := closing.stopping.awaitsStop same due set
      exact absurd (awaited.symm.trans closing.unawaited) nofun
  | leave => exact .inr (.inr ⟨.inl rfl, rfl⟩)
  | abort => exact .inr (.inr ⟨.inr rfl, rfl⟩)
  | stop | notify | pass =>
      exact .inl ⟨rfl, ⟨stopping, closing.waiting, closing.unawaited⟩, rfl⟩
  | join ended => exact absurd (waiting.symm.trans ended) nofun

theorem loopActions_of_end {moment : Milliseconds} (ends : action = .left ∨ action = .aborted)
    (ended : first.watcher.phase = .left) (run : Run first trace last) :
    loopActions (⟨action, moment⟩ :: trace) <+: [.left] := by
  rw [loopActions_cons, loopActions_eq_nil (run.ofLeft ended)]
  obtain rfl | rfl := ends
  · exact List.prefix_refl _
  · exact List.nil_prefix

/-- The stop branch is polled next, and it ends the loop. -/
theorem loopActions_of_stop (closing : first.IsClosing) (next : first.select.round = [.stop])
    (run : Run first trace last) : loopActions trace <+: [.left] := by
  induction run with
  | nil => exact List.nil_prefix
  | cons step rest inductionHypothesis =>
      obtain ⟨outside, closing, same⟩ | ⟨-, -, empty, -⟩ | ⟨ends, ended⟩ := closing.step step
      · rw [loopActions_cons, outside]
        exact inductionHypothesis closing (same.trans next)
      · exact absurd (next.symm.trans empty) nofun
      · exact loopActions_of_end ends ended rest

theorem loopActions_prefix (closing : first.IsClosing) (run : Run first trace last) :
    loopActions trace <+: [.left] ∨ loopActions trace <+: [.pending, .left] := by
  induction run with
  | nil => exact .inl List.nil_prefix
  | cons step rest inductionHypothesis =>
      obtain ⟨outside, closing, -⟩ | ⟨rfl, closing, -, next⟩ | ⟨ends, ended⟩ := closing.step step
      · rw [loopActions_cons, outside]
        exact inductionHypothesis closing
      · exact .inr ((List.prefix_cons_inj _).mpr (closing.loopActions_of_stop next rest))
      · exact .inl (loopActions_of_end ends ended rest)

theorem left_or_exists_left (closing : first.IsClosing) (run : Run first trace last) :
    last.watcher.phase = .left ∨ ∃ next, Step last .left next := by
  have kept : ∀ (first second : Loop) (action : Action), Step first action second →
      first.watcher.phase = .left ∨ first.IsClosing →
        second.watcher.phase = .left ∨ second.IsClosing := by
    intro first second action step kept
    obtain ended | closing := kept
    · exact .inl (step.ofLeft ended).2
    · obtain ⟨-, closing, -⟩ | ⟨-, closing, -⟩ | ⟨-, ended⟩ := closing.step step
      · exact .inr closing
      · exact .inr closing
      · exact .inl ended
  exact (run.keeps kept (.inr closing)).imp_right exists_left

end IsClosing

/-- Every loop that was started with a pause is orderly and keeps its pause. -/
theorem Run.of_start {teamId : String} {interval now : Milliseconds}
    (run : Run (start teamId interval now) trace last) :
    last.IsOrderly ∧ last.watcher.interval = interval := by
  have kept : ∀ (first second : Loop) (action : Action), Step first action second →
      first.IsOrderly ∧ first.watcher.interval = interval →
        second.IsOrderly ∧ second.watcher.interval = interval := by
    intro first second action step kept
    exact ⟨step.isOrderly kept.1, step.interval_eq.trans kept.2⟩
  exact run.keeps kept ⟨fun _ => .inl ⟨rfl, rfl⟩, rfl⟩

/-- A request stops every loop with a pause. -/
theorem Run.isStopping {teamId : String} {interval now : Milliseconds}
    (positive : 0 < interval) (run : Run (start teamId interval now) trace first)
    (step : Step first .stopped second) : second.IsStopping := by
  obtain ⟨orderly, rfl⟩ := run.of_start
  have requested : second.watcher.stopRequested = true := by
    cases step
    rfl
  exact ⟨step.interval_eq ▸ positive, step.isOrderly orderly, requested⟩

theorem Step.left_of_end (step : Step first action second)
    (ends : action ∈ [.left, .aborted, .joined]) : second.watcher.phase = .left := by
  cases step with
  | leave | abort => rfl
  | join ended => exact ended
  | _ => simp at ends

end Loop

/-- A poll loop with a pause is bounded, however its steps meet the calls of its owner. -/
theorem schedule_isBounded {teamId : String} {interval now : Milliseconds} {trace : List Event}
    {last : Loop} (positive : 0 < interval)
    (run : Loop.Run (.start teamId interval now) trace last) :
    last.IsBounded interval trace where
  publications := by simpa [Loop.start, Watcher.start, Channel.create] using run.publications
  oneInFlight before inside := by
    obtain ⟨after, rfl⟩ := inside
    obtain ⟨middle, runBefore, -⟩ := run.of_append
    exact runBefore.inFlight
  apart before publication middle beginning after split := by
    obtain ⟨first, runBefore, runOn⟩ := (split ▸ run).of_append
    obtain ⟨second, published, moment, runLater⟩ := runOn.of_cons
    obtain ⟨third, runMiddle, runLast⟩ := runLater.of_append
    obtain ⟨fourth, began, start, -⟩ := runLast.of_cons
    have rests := published.rests_of_published
    rw [runBefore.of_start.2, ← moment] at rests
    calc publication + interval
        ≤ third.now := began.deadline_le (runMiddle.keeps (fun _ _ _ step => step.rests) rests)
      _ = beginning := start.symm
  afterStop before moment after split := by
    obtain ⟨first, runBefore, runOn⟩ := (split ▸ run).of_append
    obtain ⟨second, stopped, -, runAfter⟩ := runOn.of_cons
    have stopping := runBefore.isStopping positive stopped
    exact ⟨runAfter.occurrences_le_one stopping (.inl rfl),
      runAfter.occurrences_le_one stopping (.inr rfl)⟩
  afterLast before moment middle publication after split := by
    obtain ⟨first, runBefore, runOn⟩ := (split ▸ run).of_append
    obtain ⟨second, stopped, -, runLater⟩ := runOn.of_cons
    obtain ⟨third, runMiddle, runLast⟩ := runLater.of_append
    obtain ⟨fourth, published, -, runAfter⟩ := runLast.of_cons
    have stopping := runMiddle.keeps (fun _ _ _ step => step.isStopping)
      (runBefore.isStopping positive stopped)
    have closing := published.isClosing_of_published stopping
    exact ⟨closing.loopActions_prefix runAfter, closing.left_or_exists_left runAfter⟩
  afterEnd before action moment after ends split := by
    obtain ⟨first, -, runOn⟩ := (split ▸ run).of_append
    obtain ⟨second, step, -, runAfter⟩ := runOn.of_cons
    exact loopActions_eq_nil (runAfter.ofLeft (step.left_of_end ends))

/-- The stop meets the end of a pause, and one more listing begins before the loop sees it. -/
theorem schedule_isBounded_race :
    let trace : List Event :=
      [⟨.began, 0⟩, ⟨.pending, 0⟩, ⟨.pending, 0⟩, ⟨.passed, 0⟩, ⟨.published, 30⟩, ⟨.pending, 30⟩,
        ⟨.pending, 30⟩, ⟨.passed, 30⟩, ⟨.stopped, 1030⟩, ⟨.woke, 1030⟩, ⟨.began, 1030⟩,
        ⟨.published, 1030⟩, ⟨.pending, 1030⟩, ⟨.left, 1030⟩, ⟨.joined, 1030⟩]
    ∃ last : Loop, 0 < 1000 ∧ Loop.Run (.start "north" 1000 0) trace last ∧
      last.IsBounded 1000 trace := by
  intro trace
  have run : ∃ last, Loop.Run (.start "north" 1000 0) trace last :=
    ⟨_, .cons (.begin _ [.stop] rfl (.inr ⟨rfl, rfl⟩) rfl) <|
      .cons (.awaitAnswer _ [.stop] rfl (.inl rfl) rfl) <|
      .cons (.awaitStop _ [] nofun (.inl rfl) rfl) <|
      .cons (.pass _ 30) <|
      .cons (.publish _ [.stop] (.ok []) rfl (.inr ⟨rfl, rfl⟩) rfl) <|
      .cons (.pause _ [.stop] 1030 rfl (.inr ⟨rfl, rfl⟩)) <|
      .cons (.awaitStop _ [] nofun (.inl rfl) rfl) <|
      .cons (.pass _ 1000) <|
      .cons (.stop _) <|
      .cons (.wake _ [.stop] 1030 rfl (.inr ⟨rfl, rfl⟩) (Nat.le_refl _) (.inl rfl)) <|
      .cons (.begin _ [.stop] rfl (.inr ⟨rfl, rfl⟩) rfl) <|
      .cons (.publish _ [.stop] (.ok []) rfl (.inl rfl) rfl) <|
      .cons (.pause _ [.stop] 2030 rfl (.inr ⟨rfl, rfl⟩)) <|
      .cons (.leave _ [] nofun (.inl rfl) rfl) <|
      .cons (.join _ rfl) (.nil _)⟩
  obtain ⟨last, run⟩ := run
  exact ⟨last, by decide, run, schedule_isBounded (by decide) run⟩

end AssetSearch.Tasks

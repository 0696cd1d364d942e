/-
This file shows which snapshots the owner of a poll loop is told. A call waits for a report and then
reads it, and the loop may publish or end between these steps. No publication is reported twice, and
a call reports the end only after the last publication.
-/

import AssetSearch.Proofs.Tasks.PollSchedules
import AssetSearch.Tasks.Timeline

namespace AssetSearch.Tasks

open AssetSearch.Index

/-- A call waits until there is something new and then reads what is newest. -/
inductive CallStage where
  | idle
  | waiting
  | reading
  deriving DecidableEq, Repr

/-- What becomes of a loop is seen from outside, and so is what a call returns. -/
inductive Sight where
  | published (snapshot : Snapshot Milliseconds)
  | ended
  | returned (report : Option (Snapshot Milliseconds))
  | nothing
  deriving DecidableEq, Repr

def Sight.ofAction (action : Action) (next : Loop) : Sight :=
  match action with
  | .published => .published next.watcher.channel.value
  | .left | .aborted => .ended
  | _ => .nothing

/-- The owner has seen the newest publication. -/
def Loop.catchUp (loop : Loop) : Loop :=
  { loop with watcher := { loop.watcher with owner := loop.watcher.channel.catchUp } }

/-- The owner of the loop makes one call at a time. -/
structure Inquiry where
  loop : Loop
  stage : CallStage
  deriving Repr

namespace Inquiry

def start (teamId : String) (interval now : Milliseconds) : Inquiry :=
  ⟨.start teamId interval now, .idle⟩

/-- The loop takes its steps at any time. A call that waits may be given up, but no other step comes
between the check of the channel and its answer. -/
inductive Step : Inquiry → Sight → Inquiry → Prop where
  | work (loop next : Loop) (action : Action) (stage : CallStage)
      (step : Loop.Step loop action next) :
      Step ⟨loop, stage⟩ (.ofAction action next) ⟨next, stage⟩
  | call (loop : Loop) : Step ⟨loop, .idle⟩ .nothing ⟨loop, .waiting⟩
  | wake (loop : Loop) (changed : loop.watcher.channel.wait loop.watcher.owner = .changed) :
      Step ⟨loop, .waiting⟩ .nothing ⟨loop.catchUp, .reading⟩
  | read (loop : Loop) :
      Step ⟨loop, .reading⟩ (.returned (some loop.watcher.channel.value)) ⟨loop.catchUp, .idle⟩
  | finish (loop : Loop) (ended : loop.watcher.channel.wait loop.watcher.owner = .ended) :
      Step ⟨loop, .waiting⟩ (.returned none) ⟨loop, .idle⟩
  | abandon (loop : Loop) : Step ⟨loop, .waiting⟩ .nothing ⟨loop, .idle⟩

inductive Run : Inquiry → List Sight → Inquiry → Prop where
  | nil (inquiry : Inquiry) : Run inquiry [] inquiry
  | cons {first second last : Inquiry} {sight : Sight} {trace : List Sight}
      (step : Step first sight second) (rest : Run second trace last) :
      Run first (sight :: trace) last

end Inquiry

/-- Publications are numbered from one on. The number of a returned snapshot is that of the newest
publication at that moment. -/
structure Ledger where
  published : List (Snapshot Milliseconds)
  returned : List Nat
  hasEnded : Bool
  deriving DecidableEq, Repr

namespace Ledger

def empty : Ledger := ⟨[], [], false⟩

def after (ledger : Ledger) : Sight → Ledger
  | .published snapshot => { ledger with published := ledger.published ++ [snapshot] }
  | .ended => { ledger with hasEnded := true }
  | .returned (some _) => { ledger with returned := ledger.returned ++ [ledger.published.length] }
  | .returned none | .nothing => ledger

def ofTrace (trace : List Sight) : Ledger := trace.foldl after empty

/-- The number is zero before the first report. -/
def lastReturned (ledger : Ledger) : Nat := ledger.returned.getLast?.getD 0

end Ledger

/-- Every report is the newest publication and newer than those before. The end is reported only
when there is nothing left to report, and a call is kept waiting only if there is neither. -/
structure ReportsInOrder (trace : List Sight) (last : Inquiry) : Prop where
  increasing : (Ledger.ofTrace trace).returned.Pairwise (· < ·)
  newest : ∀ before snapshot after, trace = before ++ .returned (some snapshot) :: after →
    (Ledger.ofTrace before).published.getLast? = some snapshot
  ending : ∀ before after, trace = before ++ .returned none :: after →
    (Ledger.ofTrace before).hasEnded = true ∧
      (Ledger.ofTrace before).lastReturned = (Ledger.ofTrace before).published.length
  answered : last.stage = .waiting → (Ledger.ofTrace trace).hasEnded = true ∨
      (Ledger.ofTrace trace).lastReturned < (Ledger.ofTrace trace).published.length →
    ∃ sight next, Inquiry.Step last sight next ∧ (sight = .returned none ∨ next.stage = .reading)

namespace Loop

variable {first second : Loop} {action : Action}

/-- A step publishes once, closes the channel or leaves it as it is. -/
theorem Step.channel (step : Step first action second) :
    (action = .published ∧ ∃ update,
      second.watcher.channel = first.watcher.channel.publish update) ∨
    ((∀ next, Sight.ofAction action next = .ended) ∧
      second.watcher.channel = first.watcher.channel.close) ∨
    ((∀ next, Sight.ofAction action next = .nothing) ∧
      second.watcher.channel = first.watcher.channel) := by
  cases step with
  | publish _ answer =>
      exact .inl ⟨rfl, fun snapshot => snapshot.afterListing first.now answer, rfl⟩
  | leave | abort => exact .inr (.inl ⟨fun _ => rfl, rfl⟩)
  | _ => exact .inr (.inr ⟨fun _ => rfl, rfl⟩)

theorem Step.owner_eq (step : Step first action second) :
    second.watcher.owner = first.watcher.owner := by
  cases step <;> rfl

end Loop

section

variable {channel : Channel (Snapshot Milliseconds)} {owner : Receiver} {stage : CallStage}
  {ledger : Ledger}

theorem wait_eq_changed_iff :
    channel.wait owner = .changed ↔ owner.seen ≠ channel.publications := by
  rw [Channel.wait, Channel.isUnseen]
  by_cases seen : owner.seen = channel.publications
  · cases isClosed : channel.isClosed <;> simp [seen]
  · simp [seen]

theorem wait_eq_ended_iff :
    channel.wait owner = .ended ↔
      owner.seen = channel.publications ∧ channel.isClosed = true := by
  rw [Channel.wait, Channel.isUnseen]
  by_cases seen : owner.seen = channel.publications
  · cases isClosed : channel.isClosed <;> simp [seen]
  · simp [seen]

/-- The channel holds what was published last, and it is closed at the end of the loop. -/
structure Ledger.IsShownBy (ledger : Ledger) (channel : Channel (Snapshot Milliseconds)) :
    Prop where
  publications : channel.publications = ledger.published.length
  value : ∀ snapshot ∈ ledger.published.getLast?, channel.value = snapshot
  isClosed : channel.isClosed = ledger.hasEnded

/-- The owner has seen what was returned last, or it was woken by something newer. -/
structure Ledger.IsKnownTo (ledger : Ledger) (owner : Receiver) (stage : CallStage) : Prop where
  increasing : ledger.returned.Pairwise (· < ·)
  returned_le : ∀ number ∈ ledger.returned, number ≤ ledger.lastReturned
  seen_le : owner.seen ≤ ledger.published.length
  seen_eq : stage ≠ .reading → owner.seen = ledger.lastReturned
  seen_gt : stage = .reading → ledger.lastReturned < owner.seen

namespace Ledger

theorem isShownBy_empty : empty.IsShownBy (.create .empty) := ⟨rfl, nofun, rfl⟩

theorem isKnownTo_empty : empty.IsKnownTo ⟨0⟩ .idle :=
  ⟨.nil, nofun, Nat.le_refl 0, fun _ => rfl, nofun⟩

theorem IsShownBy.publish (shown : ledger.IsShownBy channel)
    (update : Snapshot Milliseconds → Snapshot Milliseconds) :
    (ledger.after (.published (update channel.value))).IsShownBy (channel.publish update) where
  publications := by
    rw [after, Channel.publish, List.length_append, ← shown.publications]
    rfl
  value snapshot last := by
    rw [after, List.getLast?_concat] at last
    exact Option.some.inj last
  isClosed := shown.isClosed

theorem IsShownBy.close (shown : ledger.IsShownBy channel) :
    (ledger.after .ended).IsShownBy channel.close :=
  ⟨shown.publications, shown.value, rfl⟩

theorem IsKnownTo.published (known : ledger.IsKnownTo owner stage)
    (snapshot : Snapshot Milliseconds) :
    (ledger.after (.published snapshot)).IsKnownTo owner stage where
  increasing := known.increasing
  returned_le := known.returned_le
  seen_le := by
    rw [after, List.length_append]
    exact Nat.le_add_right_of_le known.seen_le
  seen_eq := known.seen_eq
  seen_gt := known.seen_gt

theorem IsKnownTo.ended (known : ledger.IsKnownTo owner stage) :
    (ledger.after .ended).IsKnownTo owner stage :=
  ⟨known.increasing, known.returned_le, known.seen_le, known.seen_eq, known.seen_gt⟩

/-- A call that is not reading can be at any stage but this one. -/
theorem IsKnownTo.moved (known : ledger.IsKnownTo owner stage) (before : stage ≠ .reading)
    {next : CallStage} (later : next ≠ .reading) : ledger.IsKnownTo owner next :=
  ⟨known.increasing, known.returned_le, known.seen_le, fun _ => known.seen_eq before,
    fun reading => absurd reading later⟩

/-- What wakes the owner has not been returned before. -/
theorem IsKnownTo.woken (shown : ledger.IsShownBy channel) (known : ledger.IsKnownTo owner .waiting)
    (changed : channel.wait owner = .changed) : ledger.IsKnownTo channel.catchUp .reading where
  increasing := known.increasing
  returned_le := known.returned_le
  seen_le := Nat.le_of_eq shown.publications
  seen_eq other := absurd rfl other
  seen_gt _ := by
    have unseen := wait_eq_changed_iff.mp changed
    have seen := known.seen_eq nofun
    have bound := known.seen_le
    rw [shown.publications] at unseen
    rw [Channel.catchUp, shown.publications]
    dsimp only
    omega

theorem lastReturned_after (report : Snapshot Milliseconds) :
    (ledger.after (.returned (some report))).lastReturned = ledger.published.length := by
  rw [after, lastReturned, List.getLast?_concat, Option.getD_some]

/-- The newest publication is read, which may be newer than what woke the owner. -/
theorem IsKnownTo.read (shown : ledger.IsShownBy channel) (known : ledger.IsKnownTo owner .reading)
    (report : Snapshot Milliseconds) :
    (ledger.after (.returned (some report))).IsKnownTo channel.catchUp .idle := by
  have newer : ledger.lastReturned < ledger.published.length :=
    Nat.lt_of_lt_of_le (known.seen_gt rfl) known.seen_le
  exact
    { increasing := by
        refine List.pairwise_append.mpr ⟨known.increasing, List.pairwise_singleton _ _, ?_⟩
        intro number earlier last isLast
        rw [List.mem_singleton.mp isLast]
        exact Nat.lt_of_le_of_lt (known.returned_le number earlier) newer
      returned_le := by
        rw [lastReturned_after]
        intro number inside
        obtain earlier | isLast := List.mem_append.mp inside
        · exact Nat.le_of_lt (Nat.lt_of_le_of_lt (known.returned_le number earlier) newer)
        · exact Nat.le_of_eq (List.mem_singleton.mp isLast)
      seen_le := Nat.le_of_eq shown.publications
      seen_eq := fun _ => by rw [lastReturned_after, Channel.catchUp, shown.publications]
      seen_gt := nofun }

end Ledger

end

theorem Sight.ofAction_ne_returned (action : Action) (next : Loop)
    (report : Option (Snapshot Milliseconds)) : Sight.ofAction action next ≠ .returned report := by
  cases action <;> exact nofun

namespace Inquiry

variable {first second last middle : Inquiry} {sight : Sight} {trace before after : List Sight}
  {ledger : Ledger} {report : Option (Snapshot Milliseconds)}

theorem Run.of_cons (run : Run first (sight :: trace) last) :
    ∃ second, Step first sight second ∧ Run second trace last := by
  cases run with
  | cons step rest => exact ⟨_, step, rest⟩

theorem Run.of_append (run : Run first (before ++ after) last) :
    ∃ middle, Run first before middle ∧ Run middle after last := by
  induction before generalizing first with
  | nil => exact ⟨first, .nil first, run⟩
  | cons sight before inductionHypothesis =>
      obtain ⟨second, step, rest⟩ := run.of_cons
      obtain ⟨middle, firstPart, lastPart⟩ := inductionHypothesis rest
      exact ⟨middle, .cons step firstPart, lastPart⟩

/-- A call returns what it reads, or nothing if its wait has ended. -/
theorem Step.of_returned (step : Step first (.returned report) second) :
    (first.stage = .reading ∧ report = some first.loop.watcher.channel.value) ∨
      (first.stage = .waiting ∧ report = none ∧
        first.loop.watcher.channel.wait first.loop.watcher.owner = .ended) := by
  generalize isSight : Sight.returned report = sight at step
  cases step with
  | work loop next action stage =>
      exact absurd isSight.symm (Sight.ofAction_ne_returned action next report)
  | read loop =>
      cases isSight
      exact .inl ⟨rfl, rfl⟩
  | finish loop ended =>
      cases isSight
      exact .inr ⟨rfl, rfl, ended⟩
  | call | wake | abandon => cases isSight

structure Agrees (inquiry : Inquiry) (ledger : Ledger) : Prop where
  shown : ledger.IsShownBy inquiry.loop.watcher.channel
  known : ledger.IsKnownTo inquiry.loop.watcher.owner inquiry.stage

theorem Step.agrees (step : Step first sight second) (agrees : first.Agrees ledger) :
    second.Agrees (ledger.after sight) := by
  obtain ⟨shown, known⟩ := agrees
  cases step with
  | work loop next action stage step =>
      obtain ⟨rfl, update, channel⟩ | ⟨ended, channel⟩ | ⟨hidden, channel⟩ := step.channel
      · have published := shown.publish update
        rw [show update loop.watcher.channel.value = next.watcher.channel.value by
          rw [channel, Channel.publish], ← channel] at published
        exact ⟨published, step.owner_eq ▸ known.published _⟩
      · rw [ended]
        exact ⟨channel ▸ shown.close, step.owner_eq ▸ known.ended⟩
      · rw [hidden]
        exact ⟨channel ▸ shown, step.owner_eq ▸ known⟩
  | call loop => exact ⟨shown, known.moved nofun nofun⟩
  | wake loop changed => exact ⟨shown, known.woken shown changed⟩
  | read loop =>
      exact ⟨⟨shown.publications, shown.value, shown.isClosed⟩, known.read shown _⟩
  | finish loop ended => exact ⟨shown, known.moved nofun nofun⟩
  | abandon loop => exact ⟨shown, known.moved nofun nofun⟩

theorem Run.agrees (run : Run first trace last) (agrees : first.Agrees ledger) :
    last.Agrees (trace.foldl Ledger.after ledger) := by
  induction run generalizing ledger with
  | nil => exact agrees
  | cons step _ inductionHypothesis => exact inductionHypothesis (step.agrees agrees)

theorem Run.agrees_ofStart {teamId : String} {interval now : Milliseconds}
    (run : Run (start teamId interval now) trace last) : last.Agrees (.ofTrace trace) :=
  run.agrees ⟨Ledger.isShownBy_empty, Ledger.isKnownTo_empty⟩

/-- What a call reads is the newest publication. -/
theorem Agrees.newest (agrees : first.Agrees ledger) (reading : first.stage = .reading) :
    ledger.published.getLast? = some first.loop.watcher.channel.value := by
  have seen := agrees.known.seen_gt reading
  have bound := agrees.known.seen_le
  obtain ⟨snapshot, isLast⟩ : ∃ snapshot, ledger.published.getLast? = some snapshot := by
    refine Option.isSome_iff_exists.mp (List.getLast?_isSome.mpr ?_)
    exact List.ne_nil_of_length_pos (by omega)
  rw [isLast, agrees.shown.value snapshot isLast]

theorem Agrees.ending (agrees : first.Agrees ledger) (waiting : first.stage = .waiting)
    (ended : first.loop.watcher.channel.wait first.loop.watcher.owner = .ended) :
    ledger.hasEnded = true ∧ ledger.lastReturned = ledger.published.length := by
  obtain ⟨seen, isClosed⟩ := wait_eq_ended_iff.mp ended
  rw [← agrees.shown.isClosed, ← agrees.shown.publications,
    ← agrees.known.seen_eq (waiting ▸ nofun)]
  exact ⟨isClosed, seen⟩

theorem Agrees.answered (agrees : first.Agrees ledger) (waiting : first.stage = .waiting)
    (due : ledger.hasEnded = true ∨ ledger.lastReturned < ledger.published.length) :
    ∃ sight next, Step first sight next ∧ (sight = .returned none ∨ next.stage = .reading) := by
  obtain ⟨loop, stage⟩ := first
  obtain rfl : stage = .waiting := waiting
  by_cases unseen : loop.watcher.owner.seen = loop.watcher.channel.publications
  · have same : ledger.lastReturned = ledger.published.length := by
      rw [← agrees.shown.publications, ← agrees.known.seen_eq nofun]
      exact unseen
    have isClosed : loop.watcher.channel.isClosed = true := by
      rw [agrees.shown.isClosed]
      exact due.resolve_right (by omega)
    exact ⟨_, _, .finish loop (wait_eq_ended_iff.mpr ⟨unseen, isClosed⟩), .inl rfl⟩
  · exact ⟨_, _, .wake loop (wait_eq_changed_iff.mpr unseen), .inr rfl⟩

/-- A watcher with something to report follows one of these runs when its report is taken. -/
theorem exists_run_of_takeReport {timeline : Timeline} {number : Nat} {loop : Loop}
    (present : timeline.watchers[number]? = some loop.watcher)
    (ready : loop.watcher.channel.wait loop.watcher.owner ≠ .blocked) :
    ∃ waiting next,
      Run ⟨loop, .idle⟩ (waiting ++ [.returned (timeline.takeReport number).1]) ⟨next, .idle⟩ ∧
      (∀ sight ∈ waiting, sight = .nothing) ∧
      (timeline.takeReport number).2.watchers[number]? = some next.watcher := by
  cases wait : loop.watcher.channel.wait loop.watcher.owner with
  | changed =>
      simp only [Timeline.takeReport, present, wait]
      refine ⟨[.nothing, .nothing], loop.catchUp.catchUp,
        .cons (.call loop) (.cons (.wake loop wait) (.cons (.read loop.catchUp) (.nil _))),
        by simp, ?_⟩
      simp [Timeline.update, present, Loop.catchUp]
  | ended =>
      simp only [Timeline.takeReport, present, wait]
      exact ⟨[.nothing], loop, .cons (.call loop) (.cons (.finish loop wait) (.nil _)), by simp,
        rfl⟩
  | blocked => exact absurd wait ready

/-- Wherever publications and the end of the loop fall between the steps of a call, and whatever
becomes of the calls, the snapshots that they return are in order. -/
theorem Run.reportsInOrder {teamId : String} {interval now : Milliseconds}
    (run : Run (start teamId interval now) trace last) : ReportsInOrder trace last where
  increasing := run.agrees_ofStart.known.increasing
  newest before snapshot after isTrace := by
    obtain ⟨middle, earlier, rest⟩ := (isTrace ▸ run).of_append
    obtain ⟨_, step, -⟩ := rest.of_cons
    obtain ⟨reading, isNewest⟩ | ⟨-, isNone, -⟩ := step.of_returned
    · rw [isNewest]
      exact earlier.agrees_ofStart.newest reading
    · cases isNone
  ending before after isTrace := by
    obtain ⟨middle, earlier, rest⟩ := (isTrace ▸ run).of_append
    obtain ⟨_, step, -⟩ := rest.of_cons
    obtain ⟨-, isSome⟩ | ⟨waiting, -, ended⟩ := step.of_returned
    · cases isSome
    · exact earlier.agrees_ofStart.ending waiting ended
  answered := run.agrees_ofStart.answered

/-- The second snapshot is published between the wait of the first call and its reading. The loop
ends before the second call. -/
def overtakenRead : List Sight :=
  [.nothing, .published ⟨[], some 0, none⟩, .nothing, .nothing, .nothing, .nothing,
    .published ⟨[], some 0, some "lost"⟩, .returned (some ⟨[], some 0, some "lost"⟩), .nothing,
    .ended, .nothing, .returned none]

theorem exists_run_cons (step : Step first sight second) (rest : ∃ last, Run second trace last) :
    ∃ last, Run first (sight :: trace) last := by
  obtain ⟨last, run⟩ := rest
  exact ⟨last, .cons step run⟩

theorem exists_run_overtakenRead : ∃ last, Run (start "team-1" 0 0) overtakenRead last := by
  refine exists_run_cons (.work _ _ .began _ (.begin _ [.stop] rfl (.inr ⟨rfl, rfl⟩) rfl)) ?_
  refine exists_run_cons
    (.work _ _ .published _ (.publish _ [.stop] (.ok []) rfl (.inl rfl) rfl)) ?_
  refine exists_run_cons (.call _) (exists_run_cons (.wake _ rfl) ?_)
  -- The call has been woken by the first snapshot.
  refine exists_run_cons (.work _ _ .woke _
    (.wake _ [.stop] 0 rfl (.inr ⟨rfl, rfl⟩) (Nat.le_refl 0) (.inr rfl))) ?_
  refine exists_run_cons (.work _ _ .began _ (.begin _ [.stop] rfl (.inr ⟨rfl, rfl⟩) rfl)) ?_
  refine exists_run_cons (.work _ _ .published _
    (.publish _ [.stop] (.error (.other "lost")) rfl (.inl rfl) rfl)) ?_
  refine exists_run_cons (.read _) (exists_run_cons (.work _ _ .stopped _ (.stop _)) ?_)
  refine exists_run_cons (.work _ _ .left _ (.leave _ [.work] nofun (.inr ⟨rfl, rfl⟩) rfl)) ?_
  exact exists_run_cons (.call _) ⟨_, .cons (.finish _ rfl) (.nil _)⟩

theorem Run.reportsInOrder_overtakenRead :
    ∃ last, Run (start "team-1" 0 0) overtakenRead last ∧ ReportsInOrder overtakenRead last ∧
      (Ledger.ofTrace overtakenRead).returned = [2] := by
  obtain ⟨last, run⟩ := exists_run_overtakenRead
  exact ⟨last, run, run.reportsInOrder, rfl⟩

end Inquiry

end AssetSearch.Tasks

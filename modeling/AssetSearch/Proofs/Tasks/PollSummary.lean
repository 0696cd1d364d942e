/-
This file shows that the snapshot of a watcher summarizes the polls that the watcher has made. It
holds the tasks and the time of the last success, and the error of the last poll if it failed.
-/

import AssetSearch.Proofs.Index.AllOrNothing
import AssetSearch.Tasks.Watcher

namespace AssetSearch.Tasks

open AssetSearch.Index
open AssetSearch.Query

/-- A poll is a listing with the moment of its answer. -/
structure Poll (Moment : Type) where
  moment : Moment
  answer : Except Failure (List IndexTask)

section

variable {Moment : Type}

def Poll.success? (poll : Poll Moment) : Option (Moment × List IndexTask) :=
  match poll.answer with
  | .ok tasks => some (poll.moment, tasks)
  | .error _ => none

def Poll.errorText? (poll : Poll Moment) : Option String :=
  match poll.answer with
  | .ok _ => none
  | .error failure => some failure.text

/-- Failures after a success do not hide it. -/
def lastSuccess? (polls : List (Poll Moment)) : Option (Moment × List IndexTask) :=
  (polls.filterMap Poll.success?).getLast?

/-- The polls, from the first to the last, are all that the snapshot depends on. -/
structure Snapshot.Summarizes (snapshot : Snapshot Moment) (polls : List (Poll Moment)) :
    Prop where
  tasks : snapshot.tasks = ((lastSuccess? polls).map Prod.snd).getD []
  refreshedAt : snapshot.refreshedAt = (lastSuccess? polls).map Prod.fst
  lastError : snapshot.lastError = polls.getLast?.bind Poll.errorText?

variable {polls : List (Poll Moment)} {snapshot : Snapshot Moment} {moment : Moment}

@[simp]
theorem lastSuccess?_append_ok {tasks : List IndexTask} :
    lastSuccess? (polls ++ [⟨moment, .ok tasks⟩]) = some (moment, tasks) := by
  simp [lastSuccess?, Poll.success?]

@[simp]
theorem lastSuccess?_append_error {failure : Failure} :
    lastSuccess? (polls ++ [⟨moment, .error failure⟩]) = lastSuccess? polls := by
  simp [lastSuccess?, Poll.success?]

theorem lastSuccess?_eq_none_iff :
    lastSuccess? polls = none ↔ ∀ poll ∈ polls, poll.success? = none := by
  rw [lastSuccess?, List.getLast?_eq_none_iff, List.filterMap_eq_nil_iff]

namespace Snapshot.Summarizes

theorem nil : (Snapshot.empty : Snapshot Moment).Summarizes [] := ⟨rfl, rfl, rfl⟩

/-- One more poll changes what is summarized as it changes the snapshot. -/
theorem afterListing (summary : snapshot.Summarizes polls) (moment : Moment)
    (answer : Except Failure (List IndexTask)) :
    (snapshot.afterListing moment answer).Summarizes (polls ++ [⟨moment, answer⟩]) := by
  cases answer with
  | ok tasks => constructor <;> simp [Snapshot.afterListing, Poll.errorText?]
  | error failure =>
      constructor
      · simp [Snapshot.afterListing, summary.tasks]
      · simp [Snapshot.afterListing, summary.refreshedAt]
      · simp [Snapshot.afterListing, Poll.errorText?]

theorem refreshedAt_eq_none_iff (summary : snapshot.Summarizes polls) :
    snapshot.refreshedAt = none ↔ ∀ poll ∈ polls, poll.success? = none := by
  rw [summary.refreshedAt, Option.map_eq_none_iff, lastSuccess?_eq_none_iff]

/-- After failures of one kind only, nothing but their text is known. -/
theorem of_refused {failure : Failure} (summary : snapshot.Summarizes polls) (made : polls ≠ [])
    (refused : ∀ poll ∈ polls, poll.answer = .error failure) :
    snapshot = ⟨[], none, some failure.text⟩ := by
  have noSuccess : lastSuccess? polls = none := by
    rw [lastSuccess?_eq_none_iff]
    intro poll inside
    rw [Poll.success?, refused poll inside]
  have error : polls.getLast?.bind Poll.errorText? = some failure.text := by
    rw [List.getLast?_eq_some_getLast made, Option.bind_some, Poll.errorText?,
      refused _ (List.getLast_mem made)]
  have tasks := summary.tasks
  have refreshedAt := summary.refreshedAt
  have lastError := summary.lastError
  rw [noSuccess] at tasks refreshedAt
  rw [error] at lastError
  cases snapshot
  exact Snapshot.mk.injEq .. ▸ ⟨tasks, refreshedAt, lastError⟩

end Snapshot.Summarizes

end

/-- The loop of a watcher runs at these moments, and the channel is kept before and after each. -/
def Watcher.channelsAt {Effect : Type → Type} [Monad Effect]
    (list : String → Effect (Except Failure (List IndexTask))) :
    List Milliseconds → Watcher → Effect (List (Channel (Snapshot Milliseconds)))
  | [], watcher => return [watcher.channel]
  | now :: later, watcher => do
      let next ← watcher.run list now
      let channels ← next.channelsAt list later
      return watcher.channel :: channels

/-- The polls at these moments have the answers from this number on. -/
def pollsFrom (answers : Nat → Except Failure (List IndexTask)) :
    (number : Nat) → List Milliseconds → List (Poll Milliseconds)
  | _, [] => []
  | number, now :: later => ⟨now, answers number⟩ :: pollsFrom answers (number + 1) later

/-- Every poll is published once, and each snapshot summarizes the polls before it. -/
structure Publishes (earlier later : List (Poll Milliseconds))
    (channels : List (Channel (Snapshot Milliseconds))) : Prop where
  length : channels.length = later.length + 1
  each : ∀ (count : Nat) (channel : Channel (Snapshot Milliseconds)),
    channels[count]? = some channel →
      channel.publications = earlier.length + count ∧
        channel.value.Summarizes (earlier ++ later.take count)

/-- The loop goes on, and it has published what it learnt from these polls. -/
structure Watcher.HasPublished (watcher : Watcher) (polls : List (Poll Milliseconds)) :
    Prop where
  polling : watcher.phase ≠ .left
  wanted : watcher.stopRequested = false
  publications : watcher.channel.publications = polls.length
  summary : watcher.channel.value.Summarizes polls

namespace Watcher

theorem hasPublished_start (teamId : String) (interval : Milliseconds) :
    (start teamId interval).HasPublished [] :=
  ⟨nofun, rfl, rfl, .nil⟩

variable {watcher : Watcher} {earlier : List (Poll Milliseconds)}

theorem HasPublished.afterListing (published : watcher.HasPublished earlier) (now : Milliseconds)
    (answer : Except Failure (List IndexTask)) :
    (watcher.afterListing now answer).HasPublished (earlier ++ [⟨now, answer⟩]) where
  polling := nofun
  wanted := published.wanted
  publications := by
    rw [List.length_append, ← published.publications]
    rfl
  summary := published.summary.afterListing now answer

section

variable {Effect : Type → Type} [Monad Effect]
  {list : String → Effect (Except Failure (List IndexTask))} {now : Milliseconds}

theorem run_of_requested (polling : watcher.phase ≠ .left)
    (requested : watcher.stopRequested = true) : watcher.run list now = pure watcher.leave := by
  rw [Watcher.run, requested]
  cases phase : watcher.phase with
  | listing | waiting => rfl
  | left => exact absurd phase polling

theorem run_of_unrequested (polling : watcher.phase ≠ .left)
    (wanted : watcher.stopRequested = false) :
    watcher.run list now = (do
      let answer ← list watcher.teamId
      return watcher.afterListing now answer) := by
  rw [Watcher.run, wanted]
  cases phase : watcher.phase with
  | listing | waiting => rfl
  | left => exact absurd phase polling

end

variable {State : Type} {list : String → StateM State (Except Failure (List IndexTask))}

/-- The loop lists once and publishes the answer. -/
theorem HasPublished.run (published : watcher.HasPublished earlier) (now : Milliseconds)
    {answer : Except Failure (List IndexTask)} {state next : State}
    (listed : list watcher.teamId state = (answer, next)) :
    watcher.run list now state = (watcher.afterListing now answer, next) := by
  rw [run_of_unrequested published.polling published.wanted]
  simp only [bind, StateT.bind, listed]
  rfl

/-- What has been published is summarized by the channel before the next poll. -/
theorem HasPublished.current (published : watcher.HasPublished earlier)
    (later : List (Poll Milliseconds)) :
    watcher.channel.publications = earlier.length + 0 ∧
      watcher.channel.value.Summarizes (earlier ++ later.take 0) := by
  rw [List.take_zero, List.append_nil]
  exact ⟨published.publications, published.summary⟩

theorem HasPublished.publishes_nil (published : watcher.HasPublished earlier) :
    Publishes earlier [] [watcher.channel] := by
  refine ⟨rfl, ?_⟩
  intro count channel kept
  cases count with
  | zero =>
      obtain rfl := Option.some.inj kept
      exact published.current []
  | succ count => contradiction

theorem HasPublished.publishes_cons (published : watcher.HasPublished earlier)
    {poll : Poll Milliseconds} {later : List (Poll Milliseconds)}
    {channels : List (Channel (Snapshot Milliseconds))}
    (publishes : Publishes (earlier ++ [poll]) later channels) :
    Publishes earlier (poll :: later) (watcher.channel :: channels) := by
  refine ⟨congrArg (· + 1) publishes.length, ?_⟩
  intro count channel kept
  cases count with
  | zero =>
      obtain rfl := Option.some.inj kept
      exact published.current (poll :: later)
  | succ count =>
      obtain ⟨publications, summary⟩ := publishes.each count channel kept
      rw [List.length_append, List.length_singleton, Nat.add_assoc, Nat.add_comm 1] at publications
      rw [List.append_assoc] at summary
      exact ⟨publications, summary⟩

/-- The polls so far are the invariant of the induction on the moments that are left. -/
theorem HasPublished.channelsAt {teamId : String} {states : Nat → State}
    {answers : Nat → Except Failure (List IndexTask)}
    (listed : ∀ number, list teamId (states number) = (answers number, states (number + 1)))
    (moments : List Milliseconds) (number : Nat) (team : watcher.teamId = teamId)
    (published : watcher.HasPublished earlier) :
    ∃ channels,
      watcher.channelsAt list moments (states number) =
        (channels, states (number + moments.length)) ∧
      Publishes earlier (pollsFrom answers number moments) channels := by
  induction moments generalizing watcher earlier number with
  | nil => exact ⟨[watcher.channel], rfl, published.publishes_nil⟩
  | cons now later inductionHypothesis =>
      have ran := published.run now (team ▸ listed number)
      have nextTeam : (watcher.afterListing now (answers number)).teamId = teamId := team
      obtain ⟨channels, rest, publishes⟩ :=
        inductionHypothesis (number + 1) nextTeam (published.afterListing now (answers number))
      refine ⟨watcher.channel :: channels, ?_, published.publishes_cons publishes⟩
      simp only [Watcher.channelsAt, bind, StateT.bind, ran, rest, List.length_cons]
      rw [Nat.add_right_comm]
      rfl

end Watcher

theorem mem_pollsFrom_const {answer : Except Failure (List IndexTask)} {number : Nat}
    {moments : List Milliseconds} {poll : Poll Milliseconds}
    (inside : poll ∈ pollsFrom (fun _ => answer) number moments) : poll.answer = answer := by
  induction moments generalizing number with
  | nil => contradiction
  | cons now later inductionHypothesis =>
      rcases List.mem_cons.mp inside with rfl | inside
      · rfl
      · exact inductionHypothesis inside

theorem Publishes.refreshedAt_eq_none_iff {polls : List (Poll Milliseconds)}
    {channels : List (Channel (Snapshot Milliseconds))} (publishes : Publishes [] polls channels)
    (count : Nat) (channel : Channel (Snapshot Milliseconds))
    (kept : channels[count]? = some channel) :
    channel.value.refreshedAt = none ↔ ∀ poll ∈ polls.take count, poll.success? = none :=
  (publishes.each count channel kept).2.refreshedAt_eq_none_iff

/-- Nothing but the failure is published if every poll fails with it. -/
theorem Publishes.value_of_refused {failure : Failure} {number : Nat}
    {moments : List Milliseconds} {channels : List (Channel (Snapshot Milliseconds))}
    (publishes : Publishes [] (pollsFrom (fun _ => .error failure) number moments) channels)
    {count : Nat} {channel : Channel (Snapshot Milliseconds)}
    (kept : channels[count]? = some channel) (published : 0 < count) :
    channel.value = ⟨[], none, some failure.text⟩ := by
  obtain ⟨inside, -⟩ := List.getElem?_eq_some_iff.mp kept
  apply (publishes.each count channel kept).2.of_refused
  · have := publishes.length
    apply List.ne_nil_of_length_pos
    rw [List.nil_append, List.length_take]
    omega
  · intro poll inside
    exact mem_pollsFrom_const (List.mem_of_mem_take inside)

/-- Whatever the listings of a watched team return, and whenever they do, each poll is published
once, and every snapshot has the tasks and the time of the last success so far and the error of the
last poll. A valid team is listed once in each poll with all of its indexes. For an invalid team
the service is never called, and every published snapshot holds nothing but the refusal. -/
theorem watch_summarizesPolls (naming : Naming) (limit : Nat) (teamId : String)
    (interval : Milliseconds) (answers : Answers) (moments : List Milliseconds) :
    ∃ (results : Nat → Except Failure (List IndexTask))
      (channels : List (Channel (Snapshot Milliseconds))) (calls : List Call),
      let polls := pollsFrom results 0 moments
      (Watcher.start teamId interval).channelsAt (listTasks answers.service naming limit) moments
        [] = (channels, calls) ∧
      Publishes [] polls channels ∧
      (∀ (count : Nat) (channel : Channel (Snapshot Milliseconds)),
        channels[count]? = some channel →
          (channel.value.refreshedAt = none ↔
            ∀ poll ∈ polls.take count, poll.success? = none)) ∧
      ((IsTeamName teamId ∧ results = answers.tasks ∧
          calls = List.replicate moments.length
            (.listTasks (EntityKind.all.map (naming.indexName teamId)) limit)) ∨
        (¬ IsTeamName teamId ∧ calls = [] ∧ ∃ message,
          let refusal := Failure.validation "team_id" message
          checkTeam teamId = .error refusal ∧ results = (fun _ => .error refusal) ∧
          ∀ (count : Nat) (channel : Channel (Snapshot Milliseconds)),
            channels[count]? = some channel → 0 < count →
              channel.value = ⟨[], none, some refusal.text⟩)) := by
  have started := Watcher.hasPublished_start teamId interval
  by_cases valid : IsTeamName teamId
  · have listed (number : Nat) :
        listTasks answers.service naming limit teamId (List.replicate number
          (.listTasks (EntityKind.all.map (naming.indexName teamId)) limit)) =
        (answers.tasks number, List.replicate (number + 1)
          (.listTasks (EntityKind.all.map (naming.indexName teamId)) limit)) := by
      rw [listTasks_eq valid, List.length_replicate, List.replicate_succ']
    obtain ⟨channels, run, publishes⟩ := started.channelsAt listed moments 0 rfl
    rw [Nat.zero_add] at run
    exact ⟨answers.tasks, channels, _, run, publishes, publishes.refreshedAt_eq_none_iff,
      Or.inl ⟨valid, rfl, rfl⟩⟩
  · obtain ⟨message, refused⟩ := checkTeam_refused valid
    have listed (_ : Nat) :
        listTasks answers.service naming limit teamId [] =
          (.error (.validation "team_id" message), []) :=
      listTasks_refused refused
    obtain ⟨channels, run, publishes⟩ := started.channelsAt listed moments 0 rfl
    refine ⟨_, channels, [], run, publishes, publishes.refreshedAt_eq_none_iff,
      Or.inr ⟨valid, rfl, message, refused, rfl, ?_⟩⟩
    intro count channel kept published
    exact publishes.value_of_refused kept published

end AssetSearch.Tasks

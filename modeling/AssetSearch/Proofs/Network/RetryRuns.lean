/-
This file observes runs of retried operations. The answers to the calls and the delays between
them are given in advance, and calls and pauses are written down in order. A run ends at the first
call that leaves no reason or no room for another one.
-/

import AssetSearch.Proofs.Network.CountedAttempts
import Mathlib.Order.Bounds.Basic

namespace AssetSearch.Time

theorem Duration.max_zero (duration : Duration) : duration.max .zero = duration := by
  rcases duration with ⟨nanoseconds⟩
  cases nanoseconds with
  | zero => rfl
  | succ more => rfl

theorem Duration.le_max_right (first second : Duration) :
    second.nanoseconds ≤ (first.max second).nanoseconds := by
  unfold Duration.max
  split
  · exact Nat.le_refl _
  · omega

end AssetSearch.Time

namespace AssetSearch.Network

open AssetSearch.Time

inductive RunEvent (Call : Type) where
  | called (call : Call)
  | paused (duration : Duration)
  deriving DecidableEq, Repr

def RunEvent.call? {Call : Type} : RunEvent Call → Option Call
  | called call => some call
  | paused _ => none

def RunEvent.pause? {Call : Type} : RunEvent Call → Option Duration
  | called _ => none
  | paused duration => some duration

/-- A run that is observed adds its events to those before it. -/
abbrev Observed (Call : Type) := StateM (List (RunEvent Call))

section

variable {Call Answer : Type}

def callsOf (events : List (RunEvent Call)) : List Call :=
  events.filterMap RunEvent.call?

def pausesOf (events : List (RunEvent Call)) : List Duration :=
  events.filterMap RunEvent.pause?

/-- Every call gets the next answer. -/
def answerCall (answers : Nat → Answer) (call : Call) : Observed Call Answer := fun events =>
  (answers (callsOf events).length, events ++ [.called call])

def notePause (duration : Duration) : Observed Call Unit := fun events =>
  ((), events ++ [.paused duration])

/-- Every round is a call and the pause after it. -/
def rounds (call : Call) (pauses : Nat → Duration) : Nat → List (RunEvent Call)
  | 0 => []
  | count + 1 => rounds call pauses count ++ [.called call, .paused (pauses count)]

/-- The call with this number, counted from zero, is the last one, and no pause follows it. -/
def eventsThrough (call : Call) (pauses : Nat → Duration) (last : Nat) :
    List (RunEvent Call) :=
  rounds call pauses last ++ [.called call]

theorem callsOf_append (first second : List (RunEvent Call)) :
    callsOf (first ++ second) = callsOf first ++ callsOf second :=
  List.filterMap_append

theorem callsOf_rounds (call : Call) (pauses : Nat → Duration) (count : Nat) :
    callsOf (rounds call pauses count) = List.replicate count call := by
  induction count with
  | zero => rfl
  | succ count inductionHypothesis =>
      rw [rounds, callsOf_append, inductionHypothesis, List.replicate_succ']
      rfl

theorem callsOf_eventsThrough (call : Call) (pauses : Nat → Duration) (last : Nat) :
    callsOf (eventsThrough call pauses last) = List.replicate (last + 1) call := by
  rw [eventsThrough, callsOf_append, callsOf_rounds, List.replicate_succ']
  rfl

end

section

variable {Call Fault Result : Type} (policy : RetryPolicy) (rules : RetryRules Fault)
  (outcomes : Nat → Except Fault Result) (delays : Nat → Duration)

/-- The call with this number, counted from zero, is the last one. -/
inductive StopsAt (index : Nat) : Prop
  | succeeded {result : Result} (answer : outcomes index = .ok result)
  | hopeless {fault : Fault} (answer : outcomes index = .error fault)
      (final : rules.shouldRetry fault = false)
  | exhausted {fault : Fault} (answer : outcomes index = .error fault)
      (last : index + 1 = max policy.maxAttempts 1)
  | putOff {fault : Fault} {asked : Duration} (answer : outcomes index = .error fault)
      (asks : rules.retryAfter fault = some asked)
      (tooLong : policy.maxDelay.nanoseconds < asked.nanoseconds)

/-- Another call follows the one with this number. -/
structure GoesOn (index : Nat) (fault : Fault) : Prop where
  answer : outcomes index = .error fault
  canHelp : rules.shouldRetry fault = true
  attemptsLeft : index + 1 ≠ max policy.maxAttempts 1
  bearable : ∀ asked, rules.retryAfter fault = some asked →
    asked.nanoseconds ≤ policy.maxDelay.nanoseconds

/-- A fault that asks for no wait asks for none. -/
def requestedWait : Except Fault Result → Duration
  | .ok _ => .zero
  | .error fault => (rules.retryAfter fault).getD .zero

/-- The delay of the policy and the requested wait both pass before the next call. -/
def pauseAfter (index : Nat) : Duration :=
  (delays index).max (requestedWait rules (outcomes index))

/-- A run ends at the first call that stops it, with the answer to that call. Each earlier call is
followed by one pause. -/
structure EndsAt (call : Call) (last : Nat)
    (run : Except Fault Result × List (RunEvent Call)) : Prop where
  first : IsLeast {index | StopsAt policy rules outcomes index} last
  bounded : last + 1 ≤ max policy.maxAttempts 1
  answer : run.1 = outcomes last
  events : run.2 = eventsThrough call (pauseAfter rules outcomes delays) last

variable {policy rules outcomes delays}

theorem goesOn_of_not_stopsAt {index : Nat} (further : ¬ StopsAt policy rules outcomes index) :
    ∃ fault, GoesOn policy rules outcomes index fault := by
  cases answer : outcomes index with
  | ok result => exact absurd (.succeeded answer) further
  | error fault =>
      refine ⟨fault, answer, ?_, ?_, ?_⟩
      · cases canHelp : rules.shouldRetry fault with
        | true => rfl
        | false => exact absurd (.hopeless answer canHelp) further
      · intro last
        exact further (.exhausted answer last)
      · intro asked asks
        apply Nat.le_of_not_lt
        intro tooLong
        exact further (.putOff answer asks tooLong)

theorem GoesOn.not_stopsAt {index : Nat} {fault : Fault}
    (further : GoesOn policy rules outcomes index fault) :
    ¬ StopsAt policy rules outcomes index := by
  intro stops
  have answer := further.answer
  cases stops with
  | succeeded other =>
      rw [other] at answer
      cases answer
  | hopeless other final =>
      obtain rfl : _ = fault := Except.error.inj (other.symm.trans answer)
      rw [further.canHelp] at final
      cases final
  | exhausted _ last => exact further.attemptsLeft last
  | putOff other asks tooLong =>
      obtain rfl : _ = fault := Except.error.inj (other.symm.trans answer)
      exact Nat.not_lt.mpr (further.bearable _ asks) tooLong

theorem pauseFor?_eq_some {hint : Option Duration}
    (bearable : ∀ asked, hint = some asked →
      asked.nanoseconds ≤ policy.maxDelay.nanoseconds) (delay : Duration) :
    policy.pauseFor? delay hint = some (delay.max (hint.getD .zero)) := by
  cases hint with
  | none => rw [RetryPolicy.pauseFor?, Option.getD_none, Duration.max_zero]
  | some asked =>
      have short := bearable asked rfl
      simp [RetryPolicy.pauseFor?, Duration.isLongerThan, Nat.not_lt.mpr short]

section

variable (policy rules delays)

/-- The delays are given, and every pause is noted. -/
def observedFrom (operation : Observed Call (Except Fault Result)) (attempt remaining : Nat) :
    Observed Call (Except Fault Result) :=
  retryFrom policy rules (fun index => pure (delays index)) notePause operation attempt remaining

variable {policy rules delays} {operation : Observed Call (Except Fault Result)} {attempt : Nat}
  (remaining : Nat) {events next : List (RunEvent Call)}

/-- This is all that one attempt can do while others remain. -/
theorem observedFrom_succ :
    observedFrom policy rules delays operation attempt (remaining + 1) events =
      match operation events with
      | (.ok result, next) => (.ok result, next)
      | (.error fault, next) =>
          if rules.shouldRetry fault then
            match policy.pauseFor? (delays attempt) (rules.retryAfter fault) with
            | none => (.error fault, next)
            | some duration =>
                observedFrom policy rules delays operation (attempt + 1) remaining
                  (next ++ [.paused duration])
          else (.error fault, next) := by
  simp only [observedFrom, retryFrom, pure_bind]
  simp only [bind, StateT.bind]
  rcases operation events with ⟨fault | result, next⟩
  · dsimp only
    cases rules.shouldRetry fault with
    | false => rfl
    | true =>
        cases policy.pauseFor? (delays attempt) (rules.retryAfter fault) with
        | none => rfl
        | some duration => rfl
  · rfl

theorem observedFrom_ok {result : Result} (ran : operation events = (.ok result, next)) :
    observedFrom policy rules delays operation attempt remaining events = (.ok result, next) := by
  cases remaining with
  | zero => exact ran
  | succ remaining => rw [observedFrom_succ, ran]

theorem observedFrom_final {fault : Fault} (ran : operation events = (.error fault, next))
    (final : rules.shouldRetry fault = false ∨
      policy.pauseFor? (delays attempt) (rules.retryAfter fault) = none) :
    observedFrom policy rules delays operation attempt remaining events = (.error fault, next) := by
  cases remaining with
  | zero => exact ran
  | succ remaining =>
      rw [observedFrom_succ, ran]
      rcases final with hopeless | putOff
      · simp only [hopeless, Bool.false_eq_true, if_false]
      · simp only [putOff, ite_self]

theorem observedFrom_again {fault : Fault} {duration : Duration}
    (ran : operation events = (.error fault, next)) (canHelp : rules.shouldRetry fault = true)
    (pause : policy.pauseFor? (delays attempt) (rules.retryAfter fault) = some duration) :
    observedFrom policy rules delays operation attempt (remaining + 1) events =
      observedFrom policy rules delays operation (attempt + 1) remaining
        (next ++ [.paused duration]) := by
  rw [observedFrom_succ, ran]
  simp only [canHelp, if_true, pause]

/-- An operation that only fails has no calls, however often it is tried. -/
theorem observedFrom_uncalled {fault : Fault} :
    (observedFrom policy rules delays (pure (.error fault) : Observed Call (Except Fault Result))
        attempt remaining events).1 = .error fault ∧
      callsOf (observedFrom policy rules delays
        (pure (.error fault) : Observed Call (Except Fault Result)) attempt remaining events).2 =
          callsOf events := by
  induction remaining generalizing attempt events with
  | zero => exact ⟨rfl, rfl⟩
  | succ remaining inductionHypothesis =>
      have ran : (pure (.error fault) : Observed Call (Except Fault Result)) events =
          (.error fault, events) := rfl
      by_cases canHelp : rules.shouldRetry fault = true
      · cases pause : policy.pauseFor? (delays attempt) (rules.retryAfter fault) with
        | none =>
            rw [observedFrom_final (remaining + 1) ran (Or.inr pause)]
            exact ⟨rfl, rfl⟩
        | some duration =>
            rw [observedFrom_again remaining ran canHelp pause]
            have silent : callsOf (events ++ [.paused duration]) = callsOf events := by
              rw [callsOf_append]
              exact List.append_nil _
            rw [← silent]
            exact inductionHypothesis
      · rw [Bool.not_eq_true] at canHelp
        rw [observedFrom_final (remaining + 1) ran (Or.inl canHelp)]
        exact ⟨rfl, rfl⟩

end

section

variable {call : Call} {attempt remaining : Nat}

theorem observedFrom_stops {events : List (RunEvent Call)}
    (called : (callsOf events).length = attempt)
    (room : attempt + remaining + 1 = max policy.maxAttempts 1)
    (stops : StopsAt policy rules outcomes attempt) :
    observedFrom policy rules delays (answerCall outcomes call) attempt remaining events =
      (outcomes attempt, events ++ [.called call]) := by
  have ran : answerCall outcomes call events = (outcomes attempt, events ++ [.called call]) := by
    rw [answerCall, called]
  cases stops with
  | succeeded answer =>
      rw [answer] at ran ⊢
      exact observedFrom_ok remaining ran
  | hopeless answer final =>
      rw [answer] at ran ⊢
      exact observedFrom_final remaining ran (Or.inl final)
  | exhausted answer last =>
      obtain rfl : remaining = 0 := by omega
      exact ran
  | putOff answer asks tooLong =>
      rw [answer] at ran ⊢
      apply observedFrom_final remaining ran
      right
      simp [asks, RetryPolicy.pauseFor?, Duration.isLongerThan, tooLong]

theorem observedFrom_goesOn {fault : Fault} (further : GoesOn policy rules outcomes attempt fault) :
    observedFrom policy rules delays (answerCall outcomes call) attempt (remaining + 1)
        (rounds call (pauseAfter rules outcomes delays) attempt) =
      observedFrom policy rules delays (answerCall outcomes call) (attempt + 1) remaining
        (rounds call (pauseAfter rules outcomes delays) (attempt + 1)) := by
  have ran : answerCall outcomes call (rounds call (pauseAfter rules outcomes delays) attempt) =
      (.error fault, rounds call (pauseAfter rules outcomes delays) attempt ++ [.called call]) := by
    rw [answerCall, callsOf_rounds, List.length_replicate, further.answer]
  rw [observedFrom_again remaining ran further.canHelp (pauseFor?_eq_some further.bearable _),
    rounds, List.append_assoc, pauseAfter, further.answer]
  rfl

theorem endsAt_of_stopsAt (room : attempt + remaining + 1 = max policy.maxAttempts 1)
    (before : ∀ index < attempt, ¬ StopsAt policy rules outcomes index)
    (stops : StopsAt policy rules outcomes attempt) :
    EndsAt policy rules outcomes delays call attempt
      (observedFrom policy rules delays (answerCall outcomes call) attempt remaining
        (rounds call (pauseAfter rules outcomes delays) attempt)) := by
  have called : (callsOf (rounds call (pauseAfter rules outcomes delays) attempt)).length =
      attempt := by
    rw [callsOf_rounds, List.length_replicate]
  rw [observedFrom_stops called room stops]
  refine ⟨⟨stops, ?_⟩, by omega, rfl, rfl⟩
  intro index other
  exact Nat.le_of_not_lt fun smaller => before index smaller other

/-- The events before an attempt are the rounds of the calls that did not stop the run. -/
theorem observedFrom_endsAt (room : attempt + remaining + 1 = max policy.maxAttempts 1)
    (before : ∀ index < attempt, ¬ StopsAt policy rules outcomes index) :
    ∃ last, EndsAt policy rules outcomes delays call last
      (observedFrom policy rules delays (answerCall outcomes call) attempt remaining
        (rounds call (pauseAfter rules outcomes delays) attempt)) := by
  induction remaining generalizing attempt with
  | zero =>
      have stops : StopsAt policy rules outcomes attempt := by
        by_contra further
        obtain ⟨fault, goesOn⟩ := goesOn_of_not_stopsAt further
        exact goesOn.attemptsLeft room
      exact ⟨attempt, endsAt_of_stopsAt room before stops⟩
  | succ remaining inductionHypothesis =>
      by_cases stops : StopsAt policy rules outcomes attempt
      · exact ⟨attempt, endsAt_of_stopsAt room before stops⟩
      · obtain ⟨fault, further⟩ := goesOn_of_not_stopsAt stops
        rw [observedFrom_goesOn further]
        apply inductionHypothesis
        · omega
        · intro index smaller
          rcases Nat.lt_succ_iff_lt_or_eq.mp smaller with earlier | same
          · exact before index earlier
          · rw [same]
            exact stops

end

variable (policy rules outcomes delays)

/-- All attempts make the same call. -/
def observedRetry (call : Call) : Observed Call (Except Fault Result) :=
  retry policy rules (fun index => pure (delays index)) notePause (answerCall outcomes call)

theorem observedRetry_endsAt (call : Call) :
    ∃ last, EndsAt policy rules outcomes delays call last
      (observedRetry policy rules outcomes delays call []) := by
  have room : 0 + (policy.attempts - 1) + 1 = max policy.maxAttempts 1 := by
    rw [RetryPolicy.attempts]
    omega
  apply observedFrom_endsAt room
  intro index smaller
  exact absurd smaller (Nat.not_lt_zero index)

/-- Every run keeps to its policy. It ends at the first call that succeeds, fails for good, is the
last one allowed or asks for a wait that is too long, and gives the answer to that call. Between two
calls there is one pause, which is never shorter than the wait that was asked for. A count of the
attempts in a word of 32 bits makes no difference. -/
theorem retry_followsPolicy (fits : policy.maxAttempts < UInt32.size) (call : Call) :
    ∃ last,
      EndsAt policy rules outcomes delays call last
        (observedRetry policy rules outcomes delays call []) ∧
      (callsOf (observedRetry policy rules outcomes delays call []).2).length = last + 1 ∧
      (∀ index < last, (requestedWait rules (outcomes index)).nanoseconds ≤
        (pauseAfter rules outcomes delays index).nanoseconds) ∧
      retryCounted policy rules (fun index => pure (delays index)) notePause
          (answerCall outcomes call) [] =
        (some (outcomes last), (observedRetry policy rules outcomes delays call []).2) := by
  obtain ⟨last, ends⟩ := observedRetry_endsAt policy rules outcomes delays call
  refine ⟨last, ends, ?_, ?_, ?_⟩
  · rw [ends.events, callsOf_eventsThrough, List.length_replicate]
  · intro index _
    exact Duration.le_max_right _ _
  · rw [retryCounted_eq fits, ← ends.answer]
    rfl

end

/-- These faults can always help, and each asks for a wait or for none. -/
def waitRules : RetryRules (Option Duration) := ⟨fun _ => true, id⟩

/-- The first call fails and asks for three seconds, the second one fails, and the third one
succeeds. -/
def thirdSucceeds : Nat → Except (Option Duration) String
  | 0 => .error (some (.ofSeconds 3))
  | 1 => .error none
  | _ => .ok "done"

theorem retry_followsPolicy_thirdSucceeds :
    RetryPolicy.default.maxAttempts < UInt32.size ∧
    observedRetry .default waitRules thirdSucceeds (fun _ => .ofMilliseconds 250) () [] =
      (.ok "done", [.called (), .paused (.ofSeconds 3), .called (),
        .paused (.ofMilliseconds 250), .called ()]) := by
  have fits : RetryPolicy.default.maxAttempts < UInt32.size := by decide
  refine ⟨fits, ?_⟩
  obtain ⟨last, ends, -⟩ :=
    retry_followsPolicy .default waitRules thirdSucceeds (fun _ => .ofMilliseconds 250) fits ()
  have atMost : last ≤ 2 := ends.first.2 (StopsAt.succeeded rfl)
  have first : GoesOn .default waitRules thirdSucceeds 0 (some (.ofSeconds 3)) := by
    refine ⟨rfl, rfl, by decide, ?_⟩
    rintro asked ⟨⟩
    decide
  have second : GoesOn .default waitRules thirdSucceeds 1 none :=
    ⟨rfl, rfl, by decide, by simp [waitRules]⟩
  have notFirst : last ≠ 0 := by
    rintro rfl
    exact first.not_stopsAt ends.first.1
  have notSecond : last ≠ 1 := by
    rintro rfl
    exact second.not_stopsAt ends.first.1
  obtain rfl : last = 2 := by omega
  exact Prod.ext ends.answer ends.events

end AssetSearch.Network

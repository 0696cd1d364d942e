/-
This file shows how the loss of a service is reported. An exchange can be interrupted at any byte of
the answer. Before the head of the answer is complete the failure says that the service is
unavailable, and after a head of success it says that the answer is malformed.
-/

import AssetSearch.CommandLine.Message
import AssetSearch.Proofs.Network.RequestedPause

namespace AssetSearch.Network

open AssetSearch.CommandLine
open AssetSearch.Json
open AssetSearch.Time

/-- Messages are read by a library, which says how an exchange ends that is interrupted before the
answer is complete. Nothing else needs to be known of it: without the head of an answer there is no
answer, and after the head the body cannot be read to its end. -/
structure MessageReader (Received : Type) where
  headStatus? : Received → Option Nat
  Interrupted : Received → Exchange → Prop
  noHead : ∀ {received exchange}, Interrupted received exchange → headStatus? received = none →
    exchange = .lost ∨ exchange = .timedOut
  afterHead : ∀ {received exchange status}, Interrupted received exchange →
    headStatus? received = some status → ∃ hint, exchange = .answered ⟨status, hint, .cutOff⟩

/-- The loss of the service is reported as such: the failure says so and can be retried, it is not
that of a malformed answer, and the request is sent again while attempts are left. -/
structure ReportsLoss {Content : Type} (policy : RetryPolicy) (index last : Nat)
    (outcome : Except Failure Content) : Prop where
  failure : ∃ failure, outcome = .error failure ∧ failure.isRetryable = true ∧
    failure.isUnavailable = true ∧ ∀ fault, failure ≠ .format fault
  resent : index + 1 < max policy.maxAttempts 1 → index < last

section

variable {Content : Type} {settings : ServiceSettings} {exchanges : Nat → Exchange}
  {delays : Nat → Duration} {method : Method} {path : String} {body : Option Value}
  {decoder : Decoder Content} {url : Url} {index last : Nat} {policy : RetryPolicy}
  {Received : Type}

theorem reportsLoss_of_noAnswer (missing : exchanges index = .lost ∨ exchanges index = .timedOut)
    (resent : index + 1 < max policy.maxAttempts 1 → index < last) :
    ReportsLoss policy index last (outcomeOf settings exchanges method path decoder url index) := by
  refine ⟨?_, resent⟩
  unfold outcomeOf
  rcases missing with lost | timedOut
  · rw [lost]
    exact ⟨_, rfl, rfl, rfl, nofun⟩
  · rw [timedOut]
    exact ⟨_, rfl, rfl, rfl, nofun⟩

theorem outcomeOf_cutOff {status : Nat} {hint : Option String}
    (cut : exchanges index = .answered ⟨status, hint, .cutOff⟩) (success : IsSuccess status) :
    outcomeOf settings exchanges method path decoder url index =
      .error (decodeFailure (requestLabel method (settings.endpoint path))) := by
  rw [outcomeOf, cut, readExchange, if_pos (isSuccess_iff.mpr success), decodeBody]

theorem mayResend_of_noAnswer (missing : exchanges index = .lost ∨ exchanges index = .timedOut) :
    MayResend policy (exchanges index) := by
  rcases missing with lost | timedOut
  · rw [lost]
    exact .lost
  · rw [timedOut]
    exact .timedOut

theorem not_mayResend_of_success {response : Response} (success : IsSuccess response.status) :
    ¬ MayResend policy (.answered response) := by
  obtain ⟨_, small⟩ := success
  exact not_mayResend (by omega) (by omega)

/-- An exchange that is interrupted before a complete answer of success is reported as a loss of the
service exactly if the head of the answer had not arrived. After the head it is reported as a
malformed answer instead, and the request is not sent again. -/
theorem send_reportsLoss_iff [UrlParser] (reader : MessageReader Received)
    (checked : checkRequest (settings.endpoint path) settings.apiKey = .ok url) :
    ∃ last,
      callsOf (observedSend settings exchanges delays method path body decoder).2 =
        List.replicate (last + 1) (requestTo settings method body url) ∧
      (observedSend settings exchanges delays method path body decoder).1 =
        outcomeOf settings exchanges method path decoder url last ∧
      ∀ index ≤ last, ∀ received, reader.Interrupted received (exchanges index) →
        (∀ status, reader.headStatus? received = some status → IsSuccess status) →
        (ReportsLoss settings.retry index last
            (outcomeOf settings exchanges method path decoder url index) ↔
          reader.headStatus? received = none) ∧
        (reader.headStatus? received ≠ none → index = last ∧
          outcomeOf settings exchanges method path decoder url index =
            .error (decodeFailure (requestLabel method (settings.endpoint path)))) := by
  obtain ⟨last, ends⟩ := observedRetry_endsAt settings.retry failureRules
    (outcomeOf settings exchanges method path decoder url) delays
    (requestTo settings method body url)
  rw [← observedSend_eq checked] at ends
  refine ⟨last, ?_, ends.answer, ?_⟩
  · rw [ends.events, callsOf_eventsThrough]
  intro index sent received interrupted successful
  have follows := ends.lt_iff sent
  cases arrived : reader.headStatus? received with
  | none =>
      have noAnswer := reader.noHead interrupted arrived
      refine ⟨iff_of_true (reportsLoss_of_noAnswer noAnswer ?_) rfl, fun given => absurd rfl given⟩
      intro attemptsLeft
      exact follows.mpr ⟨mayResend_of_noAnswer noAnswer, attemptsLeft⟩
  | some status =>
      have success := successful status arrived
      obtain ⟨hint, cut⟩ := reader.afterHead interrupted arrived
      have outcome : outcomeOf settings exchanges method path decoder url index =
          .error (decodeFailure (requestLabel method (settings.endpoint path))) :=
        outcomeOf_cutOff cut success
      have final : index = last := by
        by_contra different
        have resend := (follows.mp (Nat.lt_of_le_of_ne sent different)).1
        rw [cut] at resend
        exact not_mayResend_of_success success resend
      refine ⟨iff_of_false ?_ nofun, fun _ => ⟨final, outcome⟩⟩
      rintro ⟨⟨failure, same, -, -, notFormat⟩, -⟩
      rw [outcome] at same
      exact notFormat _ (Except.error.inj same).symm

end

/-- These are the head of an answer, behind the interim ones, and the bytes of its body so far. -/
def answerHead? (received : List UInt8) : Option (Head × List UInt8) :=
  match readHead received with
  | .incomplete | .malformed => none
  | .found head rest => some (head, rest)

/-- The head of an answer has arrived, and its body up to the last byte. -/
def completeAnswer? (isClosed : Bool) (received : List UInt8) : Option (Head × List UInt8) :=
  (answerHead? received).bind fun (head, rest) =>
    (head.framing.whole? isClosed rest).map fun body => (head, body)

/-- An exchange ends too early when there is no connection, or when the connection is closed or the
time is up before the answer is complete. These bytes are received until then. -/
inductive Interrupted (received : List UInt8) : Exchange → Prop
  | unreachable (nothing : received = []) : Interrupted received .lost
  | closed (incomplete : completeAnswer? true received = none) {exchange : Exchange}
      (ends : readAnswer? true received = some exchange) : Interrupted received exchange
  | timeUp (incomplete : completeAnswer? false received = none) :
      Interrupted received (answerAtTimeout received)

section

variable {received rest : List UInt8} {head : Head} {exchange : Exchange}

/-- There is an end to every exchange whose connection is closed. -/
theorem readAnswer?_closed :
    readAnswer? true received =
      match answerHead? received with
      | none => some .lost
      | some (head, rest) => (head.framing.readBody? true rest).map head.answer := by
  unfold readAnswer? answerHead?
  cases readHead received with
  | incomplete | malformed => rfl
  | found head rest => rfl

theorem answerAtTimeout_eq :
    answerAtTimeout received =
      match answerHead? received with
      | none => .timedOut
      | some (head, _) => head.answer .cutOff := by
  unfold answerAtTimeout answerHead?
  cases readHead received with
  | incomplete | malformed => rfl
  | found head rest => rfl

theorem Interrupted.noHead (interrupted : Interrupted received exchange)
    (missing : answerHead? received = none) : exchange = .lost ∨ exchange = .timedOut := by
  cases interrupted with
  | unreachable _ => exact Or.inl rfl
  | closed _ ends =>
      rw [readAnswer?_closed, missing] at ends
      exact Or.inl (Option.some.inj ends).symm
  | timeUp _ =>
      rw [answerAtTimeout_eq, missing]
      exact Or.inr rfl

theorem Interrupted.afterHead (interrupted : Interrupted received exchange)
    (arrived : answerHead? received = some (head, rest)) : exchange = head.answer .cutOff := by
  cases interrupted with
  | unreachable nothing =>
      rw [nothing] at arrived
      cases arrived
  | closed incomplete ends =>
      have unfinished : head.framing.whole? true rest = none := by
        rw [completeAnswer?, arrived] at incomplete
        exact Option.map_eq_none_iff.mp incomplete
      rw [readAnswer?_closed, arrived] at ends
      simp only [Framing.readBody?, unfinished, if_true, Option.map_some] at ends
      exact (Option.some.inj ends).symm
  | timeUp _ => rw [answerAtTimeout_eq, arrived]

end

/-- This reader makes answers out of the bytes that arrive on a connection. -/
def byteReader : MessageReader (List UInt8) where
  headStatus? received := (answerHead? received).map fun (head, _) => head.status
  Interrupted := Interrupted
  noHead interrupted missing := interrupted.noHead (Option.map_eq_none_iff.mp missing)
  afterHead interrupted arrived := by
    obtain ⟨⟨head, rest⟩, found, rfl⟩ := Option.map_eq_some_iff.mp arrived
    exact ⟨_, interrupted.afterHead found⟩

/-- A chunk of 255 bytes is announced, and the connection is closed within it. -/
def cutOffAnswer : List UInt8 :=
  "HTTP/1.1 200 OK\r\ntransfer-encoding: chunked\r\n\r\nff\r\n\x7b\"results\":".toUTF8.toList

/-- The first exchange is interrupted within the body, and the next one brings a page without
tasks. -/
def cutOffOnce : Nat → Exchange
  | 0 => .answered ⟨200, none, .cutOff⟩
  | _ => .answered ⟨200, none, .complete "\x7b\"results\":[]\x7d"⟩

theorem cutOffOnce_interrupted : Interrupted cutOffAnswer (cutOffOnce 0) :=
  .closed (by decide +kernel) (by decide +kernel)

theorem send_reportsLoss_iff_cutOff :
    checkRequest (twoAttempts.endpoint "/tasks") twoAttempts.apiKey = .ok localTasks ∧
      byteReader.Interrupted cutOffAnswer (cutOffOnce 0) ∧
      let run := observedSend twoAttempts cutOffOnce (fun _ => .ofMilliseconds 1)
        .get "/tasks" none Index.TaskPage.decode
      run.1 = .error (decodeFailure (requestLabel .get (twoAttempts.endpoint "/tasks"))) ∧
        (callsOf run.2).length = 1 ∧ ¬ ReportsLoss twoAttempts.retry 0 0 run.1 := by
  have head : byteReader.headStatus? cutOffAnswer = some 200 := by decide +kernel
  refine ⟨checkRequest_twoAttempts, cutOffOnce_interrupted, ?_⟩
  obtain ⟨last, calls, result, reports⟩ := send_reportsLoss_iff byteReader checkRequest_twoAttempts
  obtain ⟨loss, final⟩ := reports 0 (Nat.zero_le last) cutOffAnswer cutOffOnce_interrupted (by
    intro status arrived
    obtain rfl := Option.some.inj (head.symm.trans arrived)
    decide)
  obtain ⟨rfl, outcome⟩ := final (by rw [head]; exact Option.some_ne_none _)
  refine ⟨result.trans outcome, ?_, ?_⟩
  · rw [calls, List.length_replicate]
  · rw [result, loss, head]
    exact Option.some_ne_none _

/-- The tasks of an index are listed, and the connection is closed within the answer. The request is
not sent again although an attempt is left, and the caller learns of a malformed answer from a
service that is not called unavailable. -/
theorem cutOffBody_notRetried :
    let listing := (Index.Remote.service (Client.mk twoAttempts
      (observedTransport cutOffOnce fun _ => .ofMilliseconds 1))).listTasks ["t1-assets"] 10 []
    let failure := decodeFailure (requestLabel .get
      "http://localhost:7700/tasks?limit=10&indexUids=t1-assets")
    Interrupted cutOffAnswer (cutOffOnce 0) ∧ listing.1 = .error failure ∧
      failure.isRetryable = false ∧ failure.isUnavailable = false ∧
      (callsOf listing.2).length = 1 ∧ 1 < max twoAttempts.retry.maxAttempts 1 := by
  refine ⟨cutOffOnce_interrupted, ?_⟩
  decide +kernel

end AssetSearch.Network

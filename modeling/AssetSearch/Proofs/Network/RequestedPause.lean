/-
This file shows when a client keeps the pause that a service asks for. A number of seconds that no
word of 64 bits holds is taken for no wish at all.
-/

import AssetSearch.Index.Remote
import AssetSearch.Proofs.Network.Resending

namespace AssetSearch.Network

open AssetSearch.Json
open AssetSearch.Time

structure IsDecimal (header : String) : Prop where
  nonempty : header ≠ ""
  digits : ∀ character ∈ header.toList, character.isDigit = true

/-- These are the seconds that a decimal header asks for. -/
def secondsAsked (header : String) : Nat := Number.ofDigits header.toList

namespace IsDecimal

variable {header : String} {seconds : Nat}

/-- A decimal header asks for the seconds that it is the numeral of, if a word can hold them. -/
theorem asksFor_iff (decimal : IsDecimal header) :
    AsksFor header seconds ↔
      secondsAsked header ≤ largestPause ∧ secondsAsked header = seconds := by
  have bound : seconds < 2 ^ 64 ↔ seconds ≤ largestPause := by
    rw [show largestPause = 2 ^ 64 - 1 from rfl]
    omega
  constructor
  · rintro ⟨⟨digits, plain | signed, -, -, value⟩, fits⟩
    · rw [secondsAsked, plain, value]
      exact ⟨bound.mp fits, rfl⟩
    · cases decimal.digits '+' (by rw [signed]; exact List.mem_cons_self)
  · rintro ⟨fits, rfl⟩
    refine ⟨⟨header.toList, Or.inl rfl, ?_, decimal.digits, rfl⟩, bound.mpr fits⟩
    rw [ne_eq, String.toList_eq_nil_iff]
    exact decimal.nonempty

theorem pauseSeconds?_eq (decimal : IsDecimal header) (small : secondsAsked header ≤ largestPause) :
    pauseSeconds? header = some (secondsAsked header) :=
  pauseSeconds?_eq_some_iff.mpr (decimal.asksFor_iff.mpr ⟨small, rfl⟩)

end IsDecimal

/-- The wish for a pause is met: the next request waits for it, and there is no next request if the
wait is longer than the policy allows. -/
structure KeepsPause {Content : Type} (policy : RetryPolicy) (seconds index last : Nat)
    (pauses : Nat → Duration) (result : Except Failure Content) : Prop where
  floor : index < last → (Duration.ofSeconds seconds).nanoseconds ≤ (pauses index).nanoseconds
  limit : policy.maxDelay.nanoseconds < (Duration.ofSeconds seconds).nanoseconds →
    index = last ∧ ∃ service hint, result = .error (.rateLimited service hint)

section

variable {Content : Type} {settings : ServiceSettings} {exchanges : Nat → Exchange}
  {delays : Nat → Duration} {method : Method} {path : String} {body : Option Value}
  {decoder : Decoder Content} {url : Url} {index last : Nat} {response : Response}
  {header : String}

/-- Requests that are sent too often fail in this way. -/
theorem outcomeOf_limited (answer : exchanges index = .answered response)
    (limited : response.status = 429) :
    outcomeOf settings exchanges method path decoder url index =
      .error (.rateLimited (url.host.getD "index service")
        (response.retryAfter.bind pauseSeconds?)) := by
  have failed : isSuccess response.status = false := by
    rw [limited]
    rfl
  rw [outcomeOf, answer, readExchange, failed, failureOfStatus_limited limited]
  rfl

theorem requestedWait_limited (answer : exchanges index = .answered response)
    (limited : response.status = 429) (given : response.retryAfter = some header)
    (decimal : IsDecimal header) (small : secondsAsked header ≤ largestPause) :
    requestedWait failureRules (outcomeOf settings exchanges method path decoder url index) =
      Duration.ofSeconds (secondsAsked header) := by
  rw [outcomeOf_limited answer limited, given, Option.bind_some, decimal.pauseSeconds?_eq small]
  rfl

/-- No wish for a pause is heard in a number that is too large. -/
theorem mayResend_of_large (limited : response.status = 429)
    (given : response.retryAfter = some header) (decimal : IsDecimal header)
    (large : largestPause < secondsAsked header) (policy : RetryPolicy) :
    MayResend policy (.answered response) := by
  refine .limited limited fun other seconds otherGiven asks => ?_
  obtain rfl := Option.some.inj (given.symm.trans otherGiven)
  exact absurd (decimal.asksFor_iff.mp asks).1 (Nat.not_le.mpr large)

theorem not_mayResend_of_small (limited : response.status = 429)
    (given : response.retryAfter = some header) (decimal : IsDecimal header)
    (small : secondsAsked header ≤ largestPause) {policy : RetryPolicy}
    (tooLong : policy.maxDelay.nanoseconds <
      (Duration.ofSeconds (secondsAsked header)).nanoseconds) :
    ¬ MayResend policy (.answered response) := by
  rintro (_ | _ | status | ⟨_, bearable⟩)
  · omega
  · exact Nat.not_le.mpr tooLong
      (bearable header _ given (decimal.asksFor_iff.mpr ⟨small, rfl⟩))

/-- Settings have a largest delay that a word of 64 bits can count the seconds of. -/
def RetryPolicy.IsStorable (policy : RetryPolicy) : Prop :=
  policy.maxDelay.nanoseconds < (largestPause + 1) * 1000000000

theorem RetryPolicy.IsStorable.lt_ofSeconds {policy : RetryPolicy} (storable : policy.IsStorable)
    {seconds : Nat} (large : largestPause < seconds) :
    policy.maxDelay.nanoseconds < (Duration.ofSeconds seconds).nanoseconds := by
  apply Nat.lt_of_lt_of_le storable
  exact Nat.mul_le_mul_right _ large

/-- A service that asks for a pause in decimal digits gets it exactly if the number of seconds fits
into a word of 64 bits or no attempt is left. -/
theorem send_keepsPause_iff [UrlParser]
    (checked : checkRequest (settings.endpoint path) settings.apiKey = .ok url)
    (storable : settings.retry.IsStorable) :
    ∃ last pauses,
      (observedSend settings exchanges delays method path body decoder).2 =
        eventsThrough (requestTo settings method body url) pauses last ∧
      ∀ index ≤ last, ∀ response header, exchanges index = .answered response →
        response.status = 429 → response.retryAfter = some header → IsDecimal header →
          (KeepsPause settings.retry (secondsAsked header) index last pauses
              (observedSend settings exchanges delays method path body decoder).1 ↔
            secondsAsked header ≤ largestPause ∨
              index + 1 = max settings.retry.maxAttempts 1) := by
  obtain ⟨last, ends⟩ := observedRetry_endsAt settings.retry failureRules
    (outcomeOf settings exchanges method path decoder url) delays
    (requestTo settings method body url)
  rw [← observedSend_eq checked] at ends
  refine ⟨last, _, ends.events, ?_⟩
  intro index sent response header answer limited given decimal
  have follows := ends.lt_iff sent
  rw [answer] at follows
  have failure : index = last → ∃ service hint,
      (observedSend settings exchanges delays method path body decoder).1 =
        .error (.rateLimited service hint) := by
    rintro rfl
    exact ⟨_, _, ends.answer.trans (outcomeOf_limited answer limited)⟩
  have bounded := ends.bounded
  constructor
  · intro keeps
    by_contra neither
    rw [not_or, Nat.not_le] at neither
    obtain ⟨large, attemptsLeft⟩ := neither
    have resend := mayResend_of_large limited given decimal large settings.retry
    have further : index < last := follows.mpr ⟨resend, by omega⟩
    have stops := (keeps.limit (storable.lt_ofSeconds large)).1
    omega
  · rintro (small | exhausted)
    · refine ⟨fun _ => ?_, fun tooLong => ?_⟩
      · rw [pauseAfter, requestedWait_limited answer limited given decimal small]
        exact Duration.le_max_right _ _
      · have final : index = last := by
          by_contra different
          have further : index < last := Nat.lt_of_le_of_ne sent different
          exact not_mayResend_of_small limited given decimal small tooLong (follows.mp further).1
        exact ⟨final, failure final⟩
    · have final : index = last := by omega
      exact ⟨fun further => absurd further (by omega), fun _ => ⟨final, failure final⟩⟩

end

/-- The first answer asks for a pause, and the next one has a page without tasks. -/
def limitedOnce (header : String) : Nat → Exchange
  | 0 => .answered ⟨429, some header, .complete ""⟩
  | _ => .answered ⟨200, none, .complete "\x7b\"results\":[]\x7d"⟩

/-- This is one second more than a word of 64 bits can hold. -/
def hugePause : String := "18446744073709551616"

theorem hugePause_isDecimal : IsDecimal hugePause := ⟨by decide, List.all_eq_true.mp (by decide)⟩

theorem send_keepsPause_iff_hugePause :
    checkRequest (twoAttempts.endpoint "/tasks") twoAttempts.apiKey =
        .ok localTasks ∧
      twoAttempts.retry.IsStorable ∧
      let run := observedSend twoAttempts (limitedOnce hugePause) (fun _ => .ofMilliseconds 1)
        .get "/tasks" none Index.TaskPage.decode
      ∃ request last pauses, run.2 = eventsThrough request pauses last ∧
        ¬ KeepsPause twoAttempts.retry (secondsAsked hugePause) 0 last pauses run.1 := by
  have storable : twoAttempts.retry.IsStorable := by
    unfold RetryPolicy.IsStorable
    decide
  refine ⟨checkRequest_twoAttempts, storable, ?_⟩
  obtain ⟨last, pauses, events, keeps⟩ := send_keepsPause_iff checkRequest_twoAttempts storable
  refine ⟨_, last, pauses, events, ?_⟩
  rw [keeps 0 (Nat.zero_le last) _ hugePause rfl rfl rfl hugePause_isDecimal]
  decide

/-- The tasks of an index are listed, and the service asks for the huge pause. The request is sent
again after the one millisecond of the policy, and the caller never learns of the wish. -/
theorem hugePause_ignored :
    let listing := (Index.Remote.service (Client.mk twoAttempts
      (observedTransport (limitedOnce hugePause) fun _ => .ofMilliseconds 1))).listTasks
        ["t1-assets"] 10 []
    twoAttempts.retry.maxDelay.nanoseconds <
        (Duration.ofSeconds (secondsAsked hugePause)).nanoseconds ∧
      listing.1 = .ok [] ∧ (callsOf listing.2).length = 2 ∧
      pausesOf listing.2 = [.ofMilliseconds 1] := by
  decide +kernel

end AssetSearch.Network

/-
This file shows when a client sends a request again. An answer that settles the request is the last
one, and all requests of one call are the same.
-/

import AssetSearch.Index.Remote
import AssetSearch.Network.Address
import AssetSearch.Proofs.Network.BrokenRuns
import AssetSearch.Proofs.Network.ReportedExchanges

namespace AssetSearch.Network

open AssetSearch.Json
open AssetSearch.Time

/-- The exchanges end as given, one after the other. -/
def observedTransport (exchanges : Nat → Exchange) (delays : Nat → Duration) :
    Transport (Observed Request) where
  exchange := answerCall exchanges
  backoff _ index := pure (delays index)
  pause := notePause

/-- A service that asks for a pause asks for no longer one than the policy allows. -/
def IsBearable (policy : RetryPolicy) (response : Response) : Prop :=
  ∀ header seconds, response.retryAfter = some header → AsksFor header seconds →
    (Duration.ofSeconds seconds).nanoseconds ≤ policy.maxDelay.nanoseconds

/-- Only after these exchanges the request may be sent again. -/
inductive MayResend (policy : RetryPolicy) : Exchange → Prop
  | lost : MayResend policy .lost
  | timedOut : MayResend policy .timedOut
  | serviceFault {response : Response} (status : 500 ≤ response.status) :
      MayResend policy (.answered response)
  | limited {response : Response} (status : response.status = 429)
      (bearable : IsBearable policy response) : MayResend policy (.answered response)

/-- An answer settles the request unless it is a fault of the service or asks for a pause. -/
theorem not_mayResend {policy : RetryPolicy} {response : Response} (small : response.status < 500)
    (unlimited : response.status ≠ 429) : ¬ MayResend policy (.answered response) := by
  rintro (_ | _ | status | ⟨status, _⟩)
  · omega
  · exact unlimited status

section

variable {Content : Type} {policy : RetryPolicy} {label : String} {timeout : Duration} {url : Url}
  {decoder : Decoder Content} {exchange : Exchange} {response : Response}

/-- A body that cannot be decoded is no reason to ask again. -/
theorem decodeBody_final {body : Body} {fault : Failure}
    (failed : decodeBody label decoder body = .error fault) : fault.isRetryable = false := by
  unfold decodeBody at failed
  split at failed
  · cases failed
    rfl
  · split at failed
    · cases failed
    · cases failed
      rfl

theorem failureOfStatus_isRetryable :
    (failureOfStatus url response).isRetryable = true ↔
      500 ≤ response.status ∨ response.status = 429 := by
  by_cases limited : response.status = 429
  · rw [failureOfStatus_limited limited]
    exact iff_of_true rfl (Or.inr limited)
  · rw [failureOfStatus, tooManyRequests, if_neg limited, or_iff_left limited]
    exact decide_eq_true_iff

/-- The wait that a failure asks for is the one that is written in the answer. -/
theorem retryAfter?_failureOfStatus {asked : Duration} :
    (failureOfStatus url response).retryAfter? = some asked ↔
      response.status = 429 ∧ ∃ header seconds, response.retryAfter = some header ∧
        AsksFor header seconds ∧ asked = .ofSeconds seconds := by
  by_cases limited : response.status = 429
  · have hint (hint : Option Nat) : (Failure.rateLimited (url.host.getD "index service")
        hint).retryAfter? = hint.map Duration.ofSeconds := by
      cases hint with
      | none => rfl
      | some seconds => rfl
    rw [failureOfStatus_limited limited, hint, Option.map_eq_some_iff, and_iff_right limited]
    simp only [Option.bind_eq_some_iff, pauseSeconds?_eq_some_iff]
    constructor
    · rintro ⟨seconds, ⟨header, given, asks⟩, rfl⟩
      exact ⟨header, seconds, given, asks, rfl⟩
    · rintro ⟨header, seconds, given, asks, rfl⟩
      exact ⟨seconds, ⟨header, given, asks⟩, rfl⟩
  · refine iff_of_false ?_ fun given => limited given.1
    rw [failureOfStatus, tooManyRequests, if_neg limited]
    exact fun asks => Option.some_ne_none asked asks.symm

/-- A request may be sent again exactly if the failure that it ended in can be retried, and if no
wait is asked for that is too long. -/
theorem mayResend_iff :
    MayResend policy exchange ↔
      ∃ fault, readExchange label timeout url decoder exchange = .error fault ∧
        fault.isRetryable = true ∧
        ∀ asked, fault.retryAfter? = some asked →
          asked.nanoseconds ≤ policy.maxDelay.nanoseconds := by
  cases exchange with
  | lost => exact iff_of_true .lost ⟨_, rfl, rfl, nofun⟩
  | timedOut => exact iff_of_true .timedOut ⟨_, rfl, rfl, nofun⟩
  | answered response =>
      by_cases success : isSuccess response.status = true
      · obtain ⟨_, small⟩ := isSuccess_iff.mp success
        refine iff_of_false (not_mayResend (by omega) (by omega)) ?_
        rintro ⟨fault, failed, canHelp, _⟩
        rw [readExchange, if_pos success] at failed
        rw [decodeBody_final failed] at canHelp
        cases canHelp
      · rw [readExchange, if_neg success]
        constructor
        · rintro (_ | _ | status | ⟨status, bearable⟩)
          · refine ⟨_, rfl, failureOfStatus_isRetryable.mpr (Or.inl status), ?_⟩
            intro asked asks
            have limited := (retryAfter?_failureOfStatus.mp asks).1
            omega
          · refine ⟨_, rfl, failureOfStatus_isRetryable.mpr (Or.inr status), ?_⟩
            intro asked asks
            obtain ⟨-, header, seconds, given, asksFor, rfl⟩ := retryAfter?_failureOfStatus.mp asks
            exact bearable header seconds given asksFor
        · rintro ⟨fault, ⟨⟩, canHelp, bearable⟩
          rcases failureOfStatus_isRetryable.mp canHelp with status | status
          · exact .serviceFault status
          · refine .limited status ?_
            intro header seconds given asksFor
            exact bearable _ (retryAfter?_failureOfStatus.mpr
              ⟨status, header, seconds, given, asksFor, rfl⟩)

end

section

variable {Content : Type} (settings : ServiceSettings) (exchanges : Nat → Exchange)
  (delays : Nat → Duration) (method : Method) (path : String) (body : Option Value)
  (decoder : Decoder Content)

/-- The caller gets a result, and requests and pauses are written down. -/
def observedSend [UrlParser] : Except Failure Content × List (RunEvent Request) :=
  (Client.mk settings (observedTransport exchanges delays)).send method path body decoder []

/-- This is what the caller learns if the exchange with this number is the last one. -/
def outcomeOf (url : Url) (index : Nat) : Except Failure Content :=
  readExchange (requestLabel method (settings.endpoint path)) settings.timeout url decoder
    (exchanges index)

/-- This request is sent to the address, with the key of the settings. -/
def requestTo (url : Url) : Request :=
  ⟨method, url.withoutUserinfo, body, settings.apiKey.map fun key => "Bearer " ++ key⟩

variable {settings exchanges delays method path body decoder} {url : Url}

theorem observedSend_eq [UrlParser]
    (checked : checkRequest (settings.endpoint path) settings.apiKey = .ok url) :
    observedSend settings exchanges delays method path body decoder =
      observedRetry settings.retry failureRules
        (outcomeOf settings exchanges method path decoder url) delays
        (requestTo settings method body url) [] := by
  rw [observedSend, Client.send, observedRetry]
  simp only [Client.attempt, checked]
  rfl

theorem goesOn_iff {index : Nat} :
    (∃ fault, GoesOn settings.retry failureRules
      (outcomeOf settings exchanges method path decoder url) index fault) ↔
        MayResend settings.retry (exchanges index) ∧
          index + 1 ≠ max settings.retry.maxAttempts 1 := by
  constructor
  · rintro ⟨fault, answer, canHelp, attemptsLeft, bearable⟩
    exact ⟨mayResend_iff.mpr ⟨fault, answer, canHelp, bearable⟩, attemptsLeft⟩
  · rintro ⟨resend, attemptsLeft⟩
    obtain ⟨fault, answer, canHelp, bearable⟩ := mayResend_iff.mp resend
    exact ⟨fault, answer, canHelp, attemptsLeft, bearable⟩

/-- A request follows another one exactly if that one may be sent again and attempts are left. -/
theorem EndsAt.lt_iff {last : Nat}
    {run : Except Failure Content × List (RunEvent Request)}
    (ends : EndsAt settings.retry failureRules
      (outcomeOf settings exchanges method path decoder url) delays
      (requestTo settings method body url) last run) {index : Nat} (sent : index ≤ last) :
    index < last ↔ MayResend settings.retry (exchanges index) ∧
      index + 1 < max settings.retry.maxAttempts 1 := by
  have bounded := ends.bounded
  constructor
  · intro earlier
    have further : ¬ StopsAt settings.retry failureRules
        (outcomeOf settings exchanges method path decoder url) index := by
      intro stops
      exact Nat.not_le.mpr earlier (ends.first.2 stops)
    exact ⟨(goesOn_iff.mp (goesOn_of_not_stopsAt further)).1, by omega⟩
  · rintro ⟨resend, attemptsLeft⟩
    apply Nat.lt_of_le_of_ne sent
    rintro rfl
    obtain ⟨fault, further⟩ := goesOn_iff.mpr ⟨resend, attemptsLeft.ne⟩
    exact further.not_stopsAt ends.first.1

section

variable {delays : Nat → Option Duration}

end

variable (settings exchanges method path body decoder)

end

/-- The service is on this machine. -/
def localUrl : Url where
  text := "http://localhost:7700/"
  textWithoutUserinfo := "http://localhost:7700/"
  scheme := "http"
  host := some "localhost"
  isBase := true

/-- Tasks are listed here. -/
def localTasks : Url :=
  { localUrl with
    text := "http://localhost:7700/tasks"
    textWithoutUserinfo := "http://localhost:7700/tasks" }

/-- A request is sent twice at most, and no pause is longer than five milliseconds. -/
def twoAttempts : ServiceSettings :=
  ⟨localUrl, none, defaultTimeout, ⟨2, .ofMilliseconds 1, .ofMilliseconds 5, false⟩⟩

theorem checkRequest_twoAttempts :
    checkRequest (twoAttempts.endpoint "/tasks") twoAttempts.apiKey = .ok localTasks := by
  decide +kernel

end AssetSearch.Network

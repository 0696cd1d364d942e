/-
This file says what a caller is to learn from the end of an exchange, and shows that this is what it
learns. A body is decoded, a wish for a pause is handed on, and every other failure has the status
of the answer and the best explanation that there is.
-/

import AssetSearch.Network.Client
import AssetSearch.Proofs.Number.Numeral

namespace AssetSearch.Network

open AssetSearch.Json
open AssetSearch.Time

/-- The header asks for so many seconds, in decimal digits with an optional plus. No more seconds
can be asked for than a word of 64 bits holds. -/
structure AsksFor (header : String) (seconds : Nat) : Prop where
  written : ∃ digits, (header.toList = digits ∨ header.toList = '+' :: digits) ∧ digits ≠ [] ∧
    (∀ character ∈ digits, character.isDigit = true) ∧ Number.ofDigits digits = seconds
  fits : seconds < 2 ^ 64

theorem pauseSeconds?_eq_some_iff {header : String} {seconds : Nat} :
    pauseSeconds? header = some seconds ↔ AsksFor header seconds := by
  have bound : ¬ largestPause < seconds ↔ seconds < 2 ^ 64 := by
    rw [show largestPause = 2 ^ 64 - 1 from rfl]
    omega
  rw [pauseSeconds?, Number.ofDecimal?_eq_some_iff, bound]
  exact ⟨fun given => ⟨given.1, given.2⟩, fun asks => ⟨asks.written, asks.fits⟩⟩

/-- An answer of success has one of these statuses. -/
def IsSuccess (status : Nat) : Prop := 200 ≤ status ∧ status < 300

instance (status : Nat) : Decidable (IsSuccess status) :=
  inferInstanceAs (Decidable (200 ≤ status ∧ status < 300))

theorem isSuccess_iff {status : Nat} : isSuccess status = true ↔ IsSuccess status := by
  rw [isSuccess, decide_eq_true_eq, IsSuccess]
  omega

/-- The body is a whole document. -/
def Body.Holds (body : Body) (document : Document) : Prop :=
  ∃ text, body = .complete text ∧ Document.ofText? text = some document

/-- Something is decoded from the document that the body is. -/
def Body.Decodes {Content : Type} (decoder : Decoder Content) (body : Body) (content : Content) :
    Prop :=
  ∃ document, body.Holds document ∧ decoder document = some content

section

variable {Content : Type} {decoder : Decoder Content} {body : Body} {content : Content}

theorem Body.Holds.unique {first second : Document} (one : body.Holds first)
    (other : body.Holds second) : first = second := by
  obtain ⟨text, rfl, isFirst⟩ := one
  obtain ⟨_, ⟨⟩, isSecond⟩ := other
  exact Option.some.inj (isFirst.symm.trans isSecond)

theorem Body.Decodes.unique {other : Content} (one : body.Decodes decoder content)
    (another : body.Decodes decoder other) : content = other := by
  obtain ⟨first, holdsFirst, isFirst⟩ := one
  obtain ⟨second, holdsSecond, isSecond⟩ := another
  obtain rfl := holdsFirst.unique holdsSecond
  exact Option.some.inj (isFirst.symm.trans isSecond)

end

section

variable {Content : Type} {label : String} {timeout : Duration} {url : Url}
  {decoder : Decoder Content} {response : Response}

theorem failureOfStatus_limited (status : response.status = 429) :
    failureOfStatus url response =
      .rateLimited (url.host.getD "index service") (response.retryAfter.bind pauseSeconds?) := by
  rw [failureOfStatus, tooManyRequests, if_pos status, serviceName]

end

end AssetSearch.Network

/-
This file shows when the failure of a request repeats the message of the service. It always has the
status of the answer and some message. The message is that of the body if a whole record can be made
of the body, and the standard phrase of the status if not, however good the message is.
-/

import AssetSearch.Proofs.Json.KnownMembers
import AssetSearch.Proofs.Json.WrittenValues
import AssetSearch.Proofs.Network.RequestedPause

namespace AssetSearch.Network

open AssetSearch.Json
open AssetSearch.Time

theorem statusPhrase_ne_empty (status : Nat) : statusPhrase status ≠ "" := by
  have listed : ∀ entry ∈ standardPhrases, entry.2 ≠ "" := by decide
  rw [statusPhrase]
  cases found : standardPhrases.lookup status with
  | none => decide
  | some phrase =>
      obtain ⟨before, after, split, -⟩ := List.lookup_eq_some_iff.mp found
      exact listed (status, phrase) (split ▸ List.mem_append_right before List.mem_cons_self)

/-- An explanation can be made of the members, whatever the message is. -/
structure Explains (members : List (Option String × Document)) (code : Option String) : Prop where
  named : ∀ member ∈ members, member.1.isSome
  code : GivesText (valuesOf "code" members) code

section

variable {members : List (Option String × Document)} {message : String}

/-- A body with one message is an explanation if and only if its code can be read. -/
theorem Explanation.decode_object_iff (held : valuesOf "message" members = [.text (some message)])
    {explanation : Explanation} :
    Explanation.decode (.object members) = some explanation ↔
      explanation.message = message ∧ Explains members explanation.code := by
  have once : (∀ name ∈ ["message", "code"], (valuesOf name members).length ≤ 1) ↔
      (valuesOf "code" members).length ≤ 1 := by
    rw [List.forall_mem_cons, List.forall_mem_singleton, held]
    exact and_iff_right (Nat.le_refl 1)
  have messageRead : Fields.withDefault ⟨Fields.known ["message", "code"] members, false⟩ "message"
      "" Decoder.text = some message := by
    rw [Fields.withDefault_known _ (by decide), held]
    rfl
  have codeRead : Fields.withDefault ⟨Fields.known ["message", "code"] members, false⟩ "code"
      none Decoder.text.optional =
        (valuesOf "code" members).head?.elim (some none) Decoder.text.optional :=
    Fields.withDefault_known _ (by decide) _
  obtain ⟨text, code⟩ := explanation
  simp only [Explanation.decode, Option.bind_eq_bind, Option.bind_eq_some_iff,
    Fields.ofDocument?_eq_some_iff, once, pure, Option.some.injEq, Explanation.mk.injEq]
  constructor
  · rintro ⟨fields, ⟨named, short, rfl⟩, read, isRead, readCode, isCode, rfl, rfl⟩
    rw [messageRead] at isRead
    rw [codeRead] at isCode
    exact ⟨(Option.some.inj isRead).symm, named, givesText_iff.mpr ⟨short, isCode⟩⟩
  · rintro ⟨rfl, named, gives⟩
    obtain ⟨short, isCode⟩ := givesText_iff.mp gives
    exact ⟨_, ⟨named, short, rfl⟩, _, messageRead, _, codeRead.trans isCode, rfl, rfl⟩

/-- Of any other body nothing is left. -/
theorem Explanation.ofBody_eq_empty {text : String} (spells : Spells text.toList (.object members))
    (held : valuesOf "message" members = [.text (some message)])
    (unreadable : ¬ ∃ code, Explains members code) :
    Explanation.ofBody (.complete text) = Explanation.empty := by
  rw [Explanation.ofBody, Decoder.ofText?, spells.ofText?_eq, Option.bind_some]
  cases decoded : Explanation.decode (.object members) with
  | none => rfl
  | some explanation =>
    have explains := ((Explanation.decode_object_iff held).mp decoded).2
    exact absurd ⟨explanation.code, explains⟩ unreadable

theorem Explanation.ofBody_eq {text : String} {code : Option String}
    (spells : Spells text.toList (.object members))
    (held : valuesOf "message" members = [.text (some message)])
    (explains : Explains members code) :
    Explanation.ofBody (.complete text) = ⟨message, code⟩ := by
  have decoded : Explanation.decode (.object members) = some ⟨message, code⟩ :=
    (Explanation.decode_object_iff held).mpr ⟨rfl, explains⟩
  rw [Explanation.ofBody, Decoder.ofText?, spells.ofText?_eq, Option.bind_some, decoded]
  rfl

end

section

variable {Content : Type} {label : String} {timeout : Duration} {url : Url}
  {decoder : Decoder Content} {response : Response}

/-- An answer that is neither a success nor a wish for a pause has an explanation, or the standard
phrase instead. -/
theorem readExchange_failed (failed : isSuccess response.status = false)
    (notLimited : response.status ≠ tooManyRequests) :
    readExchange label timeout url decoder (.answered response) =
      .error (.indexService response.status (Explanation.ofBody response.body).code
        (if (Explanation.ofBody response.body).message = "" then statusPhrase response.status
          else (Explanation.ofBody response.body).message)) := by
  simp only [readExchange, failed, Bool.false_eq_true, if_false, failureOfStatus, notLimited,
    String.isEmpty_iff]

/-- Every such failure has the status of the answer and some message. Where the body is an object
with one message, and this is not empty, the failure has it if and only if the whole body can be
read, or if the message says no more than the standard phrase. -/
theorem message_isKept_iff (failed : isSuccess response.status = false)
    (notLimited : response.status ≠ tooManyRequests) :
    (∃ code message, message ≠ "" ∧
      readExchange label timeout url decoder (.answered response) =
        .error (.indexService response.status code message)) ∧
    ∀ text members message, response.body = .complete text →
      Spells text.toList (.object members) →
      valuesOf "message" members = [.text (some message)] → message ≠ "" →
      ((∃ code, readExchange label timeout url decoder (.answered response) =
          .error (.indexService response.status code message)) ↔
        (∃ code, Explains members code) ∨ message = statusPhrase response.status) := by
  rw [readExchange_failed failed notLimited]
  constructor
  · refine ⟨_, _, ?_, rfl⟩
    split
    · exact statusPhrase_ne_empty response.status
    · next filled => exact filled
  · intro text members message body spells held filled
    rw [body]
    by_cases readable : ∃ code, Explains members code
    · obtain ⟨code, explains⟩ := readable
      refine iff_of_true ⟨code, ?_⟩ (Or.inl ⟨code, explains⟩)
      rw [Explanation.ofBody_eq spells held explains, if_neg filled]
    · rw [Explanation.ofBody_eq_empty spells held readable, or_iff_right readable]
      simp [Explanation.empty, eq_comm]

end

/-- The service explains itself well, but has a number for a code. -/
def refusal : Value :=
  .object [("message", .text "Index missing not found."), ("code", .ofNat 42)]

def refusalMembers : List (Option String × Document) := [
  (some "message", .text (some "Index missing not found.")), (some "code", .number ['4', '2'])]

theorem spells_refusal : Spells refusal.compactText.toList (.object refusalMembers) :=
  refusal.spells Layout.compact_isBlank 0 ⟨trivial, trivial, trivial⟩

theorem message_isKept_iff_numericCode :
    isSuccess 404 = false ∧ 404 ≠ tooManyRequests ∧
      Spells refusal.compactText.toList (.object refusalMembers) ∧
      valuesOf "message" refusalMembers = [.text (some "Index missing not found.")] ∧
      ¬ ∃ code, readExchange (requestLabel .get "http://localhost:7700/tasks") defaultTimeout
        localUrl Index.TaskPage.decode (.answered ⟨404, none, .complete refusal.compactText⟩) =
          .error (.indexService 404 code "Index missing not found.") := by
  have failed : isSuccess 404 = false := by decide
  have notLimited : 404 ≠ tooManyRequests := by decide
  have held : valuesOf "message" refusalMembers = [.text (some "Index missing not found.")] := rfl
  refine ⟨failed, notLimited, spells_refusal, held, ?_⟩
  rw [(message_isKept_iff failed notLimited).2 refusal.compactText refusalMembers
    "Index missing not found." rfl spells_refusal held (by decide)]
  rintro (⟨code, explains⟩ | phrase)
  · cases explains.code
  · exact absurd phrase (by decide)

/-- The tasks of an index are listed, and the service refuses with the message and a number for a
code. The caller learns the status, and nothing of the message. -/
theorem numericCode_losesMessage :
    let listing := (Index.Remote.service (Client.mk twoAttempts
      (observedTransport (fun _ => .answered ⟨404, none, .complete refusal.compactText⟩)
        fun _ => .ofMilliseconds 1))).listTasks ["t1-assets"] 10 []
    refusal.compactText = "\x7b\"message\":\"Index missing not found.\",\"code\":42\x7d" ∧
      Spells refusal.compactText.toList (.object refusalMembers) ∧
      valuesOf "message" refusalMembers = [.text (some "Index missing not found.")] ∧
      listing.1 = .error (.indexService 404 none "Not Found") := by
  refine ⟨by decide +kernel, spells_refusal, rfl, ?_⟩
  decide +kernel

end AssetSearch.Network

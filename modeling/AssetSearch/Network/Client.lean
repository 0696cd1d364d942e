/-
This file sends requests to a service, as often as the policy allows, and makes sense of the
answers.
-/

import AssetSearch.Json.Record
import AssetSearch.Network.Exchange

namespace AssetSearch.Network

open AssetSearch.Json
open AssetSearch.Time

/-- A service explains a failure by a message and a code. -/
structure Explanation where
  message : String
  code : Option String
  deriving DecidableEq, Repr

namespace Explanation

def empty : Explanation := ⟨"", none⟩

def decode : Decoder Explanation := fun document => do
  let fields ← Fields.ofDocument? ["message", "code"] document
  let message ← fields.withDefault "message" "" Decoder.text
  let code ← fields.withDefault "code" none Decoder.text.optional
  return ⟨message, code⟩

/-- A body that is no explanation explains nothing. -/
def ofBody : Body → Explanation
  | .complete text => (decode.ofText? text).getD empty
  | .cutOff => empty

end Explanation

/-- Requests name the method and the address in the texts of their failures. -/
def requestLabel (method : Method) (url : String) : String :=
  method.name ++ " " ++ url

/-- A key is sent in a header and must not contain control characters. -/
def isHeaderCharacter (character : Char) : Bool :=
  character = '\t' || (32 ≤ character.toNat && character.toNat ≠ 127)

/-- A request is made for an address with a host only, and with a key that can be sent. -/
inductive RequestFault where
  | notBuilt
  | notBuiltFor (url : Url)
  | notSent (url : Url)
  deriving DecidableEq, Repr

def RequestFault.text : RequestFault → String
  | notBuilt => "builder error"
  | notBuiltFor url => "builder error for url (" ++ url.text ++ ")"
  | notSent url => "error sending request for url (" ++ url.withoutUserinfo.text ++ ")"

def hasHost (url : Url) : Bool := url.host.any (· != "")

/-- Only these schemes can be used for requests. -/
def isRequestScheme (scheme : String) : Bool := scheme = "http" || scheme = "https"

/-- The address is checked first, then the key, and then the scheme. -/
def checkRequest [UrlParser] (address : String) (apiKey : Option String) :
    Except RequestFault Url :=
  match UrlParser.parse address with
  | .error _ => .error .notBuilt
  | .ok url =>
      if !hasHost url then .error (.notBuiltFor url)
      else if apiKey.any fun key => !key.toList.all isHeaderCharacter then .error .notBuilt
      else if !isRequestScheme url.scheme then .error (.notBuiltFor url)
      else .ok url

def networkFailure (label : String) (fault : RequestFault) : Failure :=
  .network (label ++ " failed: " ++ fault.text) none

/-- The host of the service is named when it asks for a pause. -/
def serviceName (url : Url) : String := url.host.getD "index service"

/-- An answer that is no success is a failure, with the explanation that it contains. -/
def failureOfStatus (url : Url) (response : Response) : Failure :=
  if response.status = tooManyRequests then
    .rateLimited (serviceName url) (response.retryAfter.bind pauseSeconds?)
  else
    let explanation := Explanation.ofBody response.body
    .indexService response.status explanation.code
      (if explanation.message.isEmpty then statusPhrase response.status
        else explanation.message)

def decodeFailure (label : String) : Failure :=
  .format (.described
    ("Failed to decode response of " ++ label ++ ": error decoding response body"))

def decodeBody {Content : Type} (label : String) (decoder : Decoder Content) :
    Body → Except Failure Content
  | .cutOff => .error (decodeFailure label)
  | .complete text =>
      match decoder.ofText? text with
      | some content => .ok content
      | none => .error (decodeFailure label)

/-- This is what the caller learns from the end of an exchange. -/
def readExchange {Content : Type} (label : String) (timeout : Duration) (url : Url)
    (decoder : Decoder Content) : Exchange → Except Failure Content
  | .lost => .error (networkFailure label (.notSent url))
  | .timedOut => .error (.timeout timeout)
  | .answered response =>
      if isSuccess response.status then decodeBody label decoder response.body
      else .error (failureOfStatus url response)

/-- A transport carries out exchanges and lets time pass between them. -/
structure Transport (Effect : Type → Type) where
  exchange : Request → Effect Exchange
  backoff : RetryPolicy → (attempt : Nat) → Effect Duration
  pause : Duration → Effect Unit

structure Client (Effect : Type → Type) where
  settings : ServiceSettings
  transport : Transport Effect

def failureRules : RetryRules Failure := ⟨Failure.isRetryable, Failure.retryAfter?⟩

namespace Client

variable {Effect : Type → Type} [Monad Effect] {Content : Type}

/-- Every attempt sends the same request. -/
def request (client : Client Effect) (method : Method) (url : Url) (body : Option Value) :
    Request :=
  ⟨method, url.withoutUserinfo, body, client.settings.apiKey.map fun key => "Bearer " ++ key⟩

/-- A request that cannot be made fails without an exchange. -/
def attempt [UrlParser] (client : Client Effect) (method : Method) (url : String)
    (body : Option Value) (decoder : Decoder Content) : Effect (Except Failure Content) :=
  let label := requestLabel method url
  match checkRequest url client.settings.apiKey with
  | .error fault => return .error (networkFailure label fault)
  | .ok parsed => do
      let exchange ← client.transport.exchange (client.request method parsed body)
      return readExchange label client.settings.timeout parsed decoder exchange

def send [UrlParser] (client : Client Effect) (method : Method) (path : String)
    (body : Option Value) (decoder : Decoder Content) : Effect (Except Failure Content) :=
  retry client.settings.retry failureRules
    (client.transport.backoff client.settings.retry) client.transport.pause
    (client.attempt method (client.settings.endpoint path) body decoder)

end Client

end AssetSearch.Network

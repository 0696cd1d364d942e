/-
This file holds tokens that carry a request to stop. Copies of a token share their request, which
is never taken back.
-/

namespace AssetSearch.Cancellation

/-- Tokens are names of families, and a family remembers whether a stop was requested. -/
structure Registry where
  tokens : List (String × Nat)
  requests : List Bool
  deriving DecidableEq, Repr

namespace Registry

def empty : Registry := ⟨[], []⟩

def family? (registry : Registry) (token : String) : Option Nat :=
  registry.tokens.lookup token

def bind (registry : Registry) (token : String) (family : Nat) : Registry :=
  { registry with tokens := (token, family) :: registry.tokens.filter (·.1 != token) }

/-- The token is the first one of a new family. -/
def create (registry : Registry) (token : String) : Registry :=
  { registry with requests := registry.requests ++ [false] }.bind token registry.requests.length

/-- The copy belongs to the family of the token that it is made from. -/
def copy (registry : Registry) (source token : String) : Registry :=
  match registry.family? source with
  | some family => registry.bind token family
  | none => registry

/-- The other tokens of the family are not touched. -/
def drop (registry : Registry) (token : String) : Registry :=
  { registry with tokens := registry.tokens.filter (·.1 != token) }

def isCancelled (registry : Registry) (token : String) : Bool :=
  match registry.family? token with
  | some family => registry.requests.getD family false
  | none => false

/-- The request reaches every token of the family. -/
def cancel (registry : Registry) (token : String) : Registry :=
  match registry.family? token with
  | some family => { registry with requests := registry.requests.set family true }
  | none => registry

def isSameFamily (registry : Registry) (first second : String) : Bool :=
  match registry.family? first, registry.family? second with
  | some family, some other => family == other
  | _, _ => false

/-- A wait for a request ends with the request or at its limit. -/
structure WaitResult where
  resolved : Bool
  milliseconds : Nat
  deriving DecidableEq, Repr

/-- A stop is requested later; at the limit itself the wait is given up. -/
def waitWhileCancelling (registry : Registry) (token waiting : String) (delay limit : Nat) :
    WaitResult × Registry :=
  let result : WaitResult :=
    if registry.isCancelled waiting then ⟨true, 0⟩
    else if registry.isSameFamily token waiting && delay < limit then ⟨true, delay⟩
    else ⟨false, limit⟩
  (result, registry.cancel token)

end Registry

end AssetSearch.Cancellation

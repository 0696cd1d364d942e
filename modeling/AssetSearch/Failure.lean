/-
This file holds the ways in which an operation can fail, with their texts and with the answers to
the questions whether a retry can help and whether a service is out of reach.
-/

import AssetSearch.Time.Duration

namespace AssetSearch

open AssetSearch.Time

/-- The engine of the database has texts of its own, which no caller may depend on. -/
inductive DatabaseFault where
  | engine
  | described (message : String)
  deriving DecidableEq, Repr

/-- A text that is not a document of its format is a fault of the reader. -/
inductive FormatFault where
  | reader
  | described (message : String)
  deriving DecidableEq, Repr

inductive Failure where
  | network (message : String) (cause : Option String)
  | timeout (limit : Duration)
  | rateLimited (service : String) (retryAfterSeconds : Option Nat)
  | indexService (status : Nat) (code : Option String) (message : String)
  | database (fault : DatabaseFault)
  | format (fault : FormatFault)
  | configuration (message : String)
  | validation (field message : String)
  | other (message : String)
  deriving DecidableEq, Repr

/-- The engine speaks of a missing table, the only fault that it has here. -/
def DatabaseFault.message : DatabaseFault → String
  | engine => "no such table: custom_fields"
  | described message => message

def FormatFault.message : FormatFault → String
  | reader => "not a document of the expected form"
  | described message => message

/-- A number that may be absent is written with a word that says so. -/
def optionalSecondsText : Option Nat → String
  | some seconds => "Some(" ++ toString seconds ++ ")"
  | none => "None"

namespace Failure

def text : Failure → String
  | network message _ => "Network error: " ++ message
  | timeout limit => "Request timeout after " ++ limit.text
  | rateLimited service seconds =>
      "Rate limited by " ++ service ++ ", retry after " ++ optionalSecondsText seconds ++
        " seconds"
  | indexService status _ message =>
      "Index service returned " ++ toString status ++ ": " ++ message
  | database fault => "Database error: " ++ fault.message
  | format fault => "JSON error: " ++ fault.message
  | configuration message => "Configuration error: " ++ message
  | validation field message => "Validation error for " ++ field ++ ": " ++ message
  | other message => message

/-- Faults of the service have this status or a larger one. -/
def firstServiceFault : Nat := 500

/-- Sending the same request again can help. -/
def isRetryable : Failure → Bool
  | network .. | timeout _ | rateLimited .. => true
  | indexService status .. => firstServiceFault ≤ status
  | _ => false

/-- A service could not be reached or could not do its work. -/
def isUnavailable : Failure → Bool
  | network .. | timeout _ | rateLimited .. | database _ => true
  | indexService status .. => firstServiceFault ≤ status
  | _ => false

/-- This is the wait that the service asked for. -/
def retryAfter? : Failure → Option Duration
  | rateLimited _ (some seconds) => some (.ofSeconds seconds)
  | _ => none

end Failure

end AssetSearch

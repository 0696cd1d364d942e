/-
This file holds requests to a service and the ways in which their exchanges end.
-/

import AssetSearch.Json.Value
import AssetSearch.Network.Endpoint
import AssetSearch.Number.Numeral

namespace AssetSearch.Network

open AssetSearch.Json

inductive Method where
  | get
  | post
  | patch
  deriving DecidableEq, Repr

def Method.name : Method → String
  | get => "GET"
  | post => "POST"
  | patch => "PATCH"

/-- A request without a body asks for a document. -/
structure Request where
  method : Method
  url : Url
  body : Option Value
  authorization : Option String
  deriving Repr

/-- The body of an answer arrives as a whole or is cut off. -/
inductive Body where
  | complete (text : String)
  | cutOff
  deriving DecidableEq, Repr

structure Response where
  status : Nat
  retryAfter : Option String
  body : Body
  deriving DecidableEq, Repr

/-- Without an answer there was no connection, or it was lost, or the time was up. -/
inductive Exchange where
  | lost
  | timedOut
  | answered (response : Response)
  deriving DecidableEq, Repr

/-- Statuses of success begin with the digit two. -/
def isSuccess (status : Nat) : Bool := status / 100 = 2

/-- This status asks for a pause. -/
def tooManyRequests : Nat := 429

/-- These are the standard phrases for statuses that are no success. -/
def standardPhrases : List (Nat × String) := [
  (100, "Continue"),
  (101, "Switching Protocols"),
  (102, "Processing"),
  (200, "OK"),
  (201, "Created"),
  (202, "Accepted"),
  (203, "Non Authoritative Information"),
  (204, "No Content"),
  (205, "Reset Content"),
  (206, "Partial Content"),
  (207, "Multi-Status"),
  (208, "Already Reported"),
  (226, "IM Used"),
  (300, "Multiple Choices"),
  (301, "Moved Permanently"),
  (302, "Found"),
  (303, "See Other"),
  (304, "Not Modified"),
  (305, "Use Proxy"),
  (307, "Temporary Redirect"),
  (308, "Permanent Redirect"),
  (400, "Bad Request"),
  (401, "Unauthorized"),
  (402, "Payment Required"),
  (403, "Forbidden"),
  (404, "Not Found"),
  (405, "Method Not Allowed"),
  (406, "Not Acceptable"),
  (407, "Proxy Authentication Required"),
  (408, "Request Timeout"),
  (409, "Conflict"),
  (410, "Gone"),
  (411, "Length Required"),
  (412, "Precondition Failed"),
  (413, "Payload Too Large"),
  (414, "URI Too Long"),
  (415, "Unsupported Media Type"),
  (416, "Range Not Satisfiable"),
  (417, "Expectation Failed"),
  (418, "I'm a teapot"),
  (421, "Misdirected Request"),
  (422, "Unprocessable Entity"),
  (423, "Locked"),
  (424, "Failed Dependency"),
  (426, "Upgrade Required"),
  (428, "Precondition Required"),
  (429, "Too Many Requests"),
  (431, "Request Header Fields Too Large"),
  (451, "Unavailable For Legal Reasons"),
  (500, "Internal Server Error"),
  (501, "Not Implemented"),
  (502, "Bad Gateway"),
  (503, "Service Unavailable"),
  (504, "Gateway Timeout"),
  (505, "HTTP Version Not Supported"),
  (506, "Variant Also Negotiates"),
  (507, "Insufficient Storage"),
  (508, "Loop Detected"),
  (510, "Not Extended"),
  (511, "Network Authentication Required")]

/-- A status without a standard phrase says only that the request failed. -/
def statusPhrase (status : Nat) : String :=
  (standardPhrases.lookup status).getD "request failed"

/-- This is the largest number of seconds that a pause can have. -/
def largestPause : Nat := Nat.pow 2 64 - 1

/-- A pause is a number of seconds. -/
def pauseSeconds? (header : String) : Option Nat := Number.ofDecimal? largestPause header

end AssetSearch.Network

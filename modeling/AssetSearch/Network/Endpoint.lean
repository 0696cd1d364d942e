/-
This file holds the settings for a service and joins paths to its address.
-/

import AssetSearch.Failure
import AssetSearch.Network.Retry
import AssetSearch.Network.Url

namespace AssetSearch.Network

open AssetSearch.Time

structure ServiceSettings where
  baseUrl : Url
  apiKey : Option String
  timeout : Duration
  retry : RetryPolicy
  deriving DecidableEq, Repr

/-- A request is given up after this time. -/
def defaultTimeout : Duration := .ofSeconds 15

/-- Requests name this program. -/
def userAgent : String := "Stockroom-Search/0.3"

namespace ServiceSettings

/-- The address must be a base for paths. -/
def ofAddress [UrlParser] (address : String) : Except Failure ServiceSettings :=
  match UrlParser.parse address with
  | .error message =>
      .error (.configuration ("Invalid index service URL '" ++ address ++ "': " ++ message))
  | .ok url =>
      if url.isBase then .ok ⟨url, none, defaultTimeout, .default⟩
      else
        .error (.configuration ("Index service URL '" ++ address ++ "' cannot be a base URL"))

/-- An empty key is no key. -/
def withApiKey (settings : ServiceSettings) (key : String) : ServiceSettings :=
  { settings with apiKey := if key.isEmpty then none else some key }

def dropSlashesAtEnd (text : String) : String :=
  String.ofList (text.toList.reverse.dropWhile (· == '/')).reverse

def dropSlashesAtStart (text : String) : String :=
  String.ofList (text.toList.dropWhile (· == '/'))

/-- One slash joins the path to the normal form of the address. -/
def endpoint (settings : ServiceSettings) (path : String) : String :=
  dropSlashesAtEnd settings.baseUrl.text ++ "/" ++ dropSlashesAtStart path

end ServiceSettings

end AssetSearch.Network

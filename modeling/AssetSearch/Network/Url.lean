/-
This file says what the program learns about addresses. How they are read is the matter of a library
that can be any.
-/

namespace AssetSearch.Network

/-- The text is the normal form of the address. One that is no base has no paths below it. -/
structure Url where
  text : String
  textWithoutUserinfo : String
  scheme : String
  host : Option String
  isBase : Bool
  deriving DecidableEq, Repr

namespace Url

/-- The name and the password of a user are no part of the address that a request is sent to. -/
def withoutUserinfo (url : Url) : Url := { url with text := url.textWithoutUserinfo }

end Url

/-- A text that is no address is refused with a message. -/
class UrlParser where
  parse : String → Except String Url

end AssetSearch.Network

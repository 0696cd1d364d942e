/-
This file holds the bytes that texts are encoded with, and counts them.
-/

namespace AssetSearch.Text

/-- These are the bytes of a text as it is encoded. -/
def bytes (text : String) : List UInt8 :=
  text.toList.flatMap String.utf8EncodeChar

/-- A character takes up one to four bytes. -/
def byteLength : List Char → Nat
  | [] => 0
  | character :: rest => character.utf8Size + byteLength rest

end AssetSearch.Text

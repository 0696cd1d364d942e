/-
This file holds what can stand in a column of the field table. This program writes texts only, while
other programs can write anything that the database keeps in a column of texts.
-/

import AssetSearch.Failure
import AssetSearch.Text.ByteLength

namespace AssetSearch.Catalog

/-- The bytes are marked as text, although no text is encoded with them. -/
structure MalformedText where
  bytes : List UInt8
  isMalformed : (ByteArray.mk bytes.toArray).validateUTF8 = false
  deriving DecidableEq, Repr

def MalformedText.ofBytes? (bytes : List UInt8) : Option MalformedText :=
  if isMalformed : (ByteArray.mk bytes.toArray).validateUTF8 = false then
    some ⟨bytes, isMalformed⟩
  else none

/-- Numbers are kept as texts, so that there are no cells of numbers. -/
inductive Cell where
  | null
  | text (value : String)
  | malformed (content : MalformedText)
  | blob (bytes : List UInt8)
  deriving DecidableEq, Repr

namespace Cell

instance : Coe String Cell := ⟨Cell.text⟩

/-- Nothing stands before texts, and blobs stand behind them. Texts and blobs are compared byte by
byte. -/
def place : Cell → List UInt8
  | null => [0]
  | text value => 1 :: Text.bytes value
  | malformed content => 1 :: content.bytes
  | blob bytes => 2 :: bytes

/-- Only texts are read, and any other cell is a failure of the database. -/
def read : Cell → Except Failure String
  | text value => .ok value
  | _ => .error (.database .engine)

end Cell

end AssetSearch.Catalog

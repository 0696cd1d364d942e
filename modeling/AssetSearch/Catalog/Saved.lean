/-
This file writes catalogs as documents and reads them back, so that they can be kept in files.
-/

import AssetSearch.Catalog.Store

namespace AssetSearch.Catalog

open AssetSearch.Json

namespace Cell

def bytesToJson (bytes : List UInt8) : Value :=
  Value.ofList (fun byte => .ofNat byte.toNat) bytes

/-- A cell that holds no text is written with its bytes. -/
def toJson : Cell → Value
  | null => .null
  | text value => .text value
  | malformed content => .object [("text", bytesToJson content.bytes)]
  | blob bytes => .object [("blob", bytesToJson bytes)]

def decodeByte : Decoder UInt8 := fun document => do
  let value ← Decoder.natural document
  if value < 256 then some (UInt8.ofNat value) else none

def decode : Decoder Cell
  | .null => some .null
  | .text content => content.map .text
  | .object [(some "text", document)] => do
      return .malformed (← MalformedText.ofBytes? (← Decoder.list decodeByte document))
  | .object [(some "blob", document)] => (Decoder.list decodeByte document).map .blob
  | _ => none

end Cell

namespace Row

def names : List String := ["id", "teamId", "name", "slug", "fieldType", "createdAt"]

/-- A row is written with all of its cells as they are. -/
def toJson (row : Row) : Value :=
  .object [
    ("id", row.id.toJson),
    ("teamId", row.teamId.toJson),
    ("name", row.name.toJson),
    ("slug", row.slug.toJson),
    ("fieldType", row.fieldType.toJson),
    ("createdAt", row.createdAt.toJson)]

def decode : Decoder Row := fun document => do
  let fields ← Fields.ofDocument? names document
  let id ← fields.required "id" Cell.decode
  let teamId ← fields.required "teamId" Cell.decode
  let name ← fields.required "name" Cell.decode
  let slug ← fields.required "slug" Cell.decode
  let fieldType ← fields.required "fieldType" Cell.decode
  let createdAt ← fields.required "createdAt" Cell.decode
  return ⟨id, teamId, name, slug, fieldType, createdAt⟩

end Row

namespace Store

/-- Without a table nothing but null is written. -/
def savedText (store : Store) : String :=
  (Value.ofOption (Value.ofList Row.toJson) store.table).indentedText ++ "\n"

/-- An empty file is a catalog without a table, and a damaged one is a failure of the database. -/
def ofSavedText (text : String) : Except Failure Store :=
  if text.isEmpty then .ok ⟨none⟩
  else
    match (Decoder.optional (Decoder.list Row.decode)).ofText? text with
    | some table => .ok ⟨table⟩
    | none => .error (.database .engine)

end Store

end AssetSearch.Catalog

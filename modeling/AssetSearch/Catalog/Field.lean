/-
This file holds the custom fields of teams and the types that their values can have.
-/

import AssetSearch.Catalog.Slug
import AssetSearch.Failure
import AssetSearch.Json.Record

namespace AssetSearch.Catalog

open AssetSearch.Json
open AssetSearch.Time

inductive FieldType where
  | text
  | number
  | truth
  | date
  | time
  | dateTime
  | currency
  | tag
  deriving DecidableEq, Repr

namespace FieldType

def all : List FieldType := [text, number, truth, date, time, dateTime, currency, tag]

def name : FieldType → String
  | text => "string"
  | number => "number"
  | truth => "boolean"
  | date => "date"
  | time => "time"
  | dateTime => "datetime"
  | currency => "currency"
  | tag => "tag"

def ofName? (name : String) : Option FieldType :=
  all.find? (·.name = name)

/-- Names are read without regard to letter case. -/
def parse (text : String) : Except Failure FieldType :=
  let name := Text.lowered text
  match ofName? name with
  | some fieldType => .ok fieldType
  | none => .error (.validation "field_type" ("unknown custom field type '" ++ name ++ "'"))

end FieldType

structure CustomField where
  id : String
  teamId : String
  name : String
  slug : String
  fieldType : FieldType
  createdAt : Instant
  deriving DecidableEq, Repr

namespace CustomField

/-- The keyword of a new field comes from its name. -/
def create (id teamId name : String) (fieldType : FieldType) (createdAt : Instant) :
    CustomField :=
  ⟨id, teamId, name, Catalog.slug name, fieldType, createdAt⟩

def toJson (field : CustomField) : Value :=
  .object [
    ("id", .text field.id),
    ("teamId", .text field.teamId),
    ("name", .text field.name),
    ("slug", .text field.slug),
    ("fieldType", .text field.fieldType.name),
    ("createdAt", .text (Rfc3339.text field.createdAt))]

def fieldNames : List String := ["id", "teamId", "name", "slug", "fieldType", "createdAt"]

def decode : Decoder CustomField := fun document => do
  let fields ← Fields.ofDocument? fieldNames document
  let id ← fields.required "id" Decoder.text
  let teamId ← fields.required "teamId" Decoder.text
  let name ← fields.required "name" Decoder.text
  let slug ← fields.required "slug" Decoder.text
  let fieldType ← fields.required "fieldType" (Decoder.named FieldType.ofName?)
  let createdAt ← fields.required "createdAt" Decoder.instant
  return ⟨id, teamId, name, slug, fieldType, createdAt⟩

end CustomField

end AssetSearch.Catalog

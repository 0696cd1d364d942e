/-
This file decodes records: objects whose members have fixed names and types, which may also be
written as lists of their members in order.
-/

import AssetSearch.Json.Reader
import AssetSearch.Time.Rfc3339

namespace AssetSearch.Json

/-- A decoder gives nothing for a document of another type. -/
abbrev Decoder (Content : Type) := Document → Option Content

namespace Decoder

def text : Decoder String
  | .text content => content
  | _ => none

/-- Natural numbers of 64 bits are decoded, without point and exponent. -/
def natural : Decoder Nat
  | .number numeral =>
      match JsonNumber.ofNumeral? numeral with
      | some (.integer value) => if 0 ≤ value then some value.toNat else none
      | _ => none
  | _ => none

def instant : Decoder Time.Instant
  | .text (some content) => (Time.Rfc3339.readRelaxed content).toOption
  | _ => none

/-- Null stands for no content. -/
def optional {Content : Type} (decoder : Decoder Content) : Decoder (Option Content)
  | .null => some none
  | document => (decoder document).map some

def allOf {Content : Type} (decoder : Decoder Content) : List Document → Option (List Content)
  | [] => some []
  | item :: later =>
      match decoder item with
      | none => none
      | some content => (allOf decoder later).map (content :: ·)

def list {Content : Type} (decoder : Decoder Content) : Decoder (List Content)
  | .list items => allOf decoder items
  | _ => none

/-- A name is written as a text, or as an object whose only member has the name and is null. -/
def named {Content : Type} (ofName? : String → Option Content) : Decoder Content
  | .text (some name) => ofName? name
  | .object [(some name, .null)] => ofName? name
  | _ => none

end Decoder

/-- These are the members that a document has for the fields of a record. -/
structure Fields where
  members : List (String × Document)
  isPositional : Bool

namespace Fields

/-- Every name is a text, and no field is given twice. -/
def ofMembers? (names : List String) (members : List (Option String × Document)) :
    Option Fields :=
  let known := members.filterMap fun member =>
    member.1.bind fun name => if names.contains name then some (name, member.2) else none
  if members.all (·.1.isSome) && (known.map Prod.fst).Nodup then some ⟨known, false⟩ else none

/-- Members that belong to no field are passed over in an object but not in a list. -/
def ofDocument? (names : List String) : Document → Option Fields
  | .object members => ofMembers? names members
  | .list items => if items.length ≤ names.length then some ⟨names.zip items, true⟩ else none
  | _ => none

def required {Content : Type} (fields : Fields) (name : String) (decoder : Decoder Content) :
    Option Content :=
  (fields.members.lookup name).bind decoder

/-- A missing field gets the default. -/
def withDefault {Content : Type} (fields : Fields) (name : String) (default : Content)
    (decoder : Decoder Content) : Option Content :=
  match fields.members.lookup name with
  | some document => decoder document
  | none => some default

/-- The field may be null, and in an object it may be missing. -/
def optional {Content : Type} (fields : Fields) (name : String) (decoder : Decoder Content) :
    Option (Option Content) :=
  match fields.members.lookup name with
  | some document => decoder.optional document
  | none => if fields.isPositional then none else some none

end Fields

/-- A decoder is applied to a complete text. -/
def Decoder.ofText? {Content : Type} (decoder : Decoder Content) (text : String) :
    Option Content :=
  (Document.ofText? text).bind decoder

end AssetSearch.Json

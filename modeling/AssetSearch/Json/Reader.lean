/-
This file reads values out of documents. Members of a value stand in the order of their names, and
of the members with one name the last one counts.
-/

import AssetSearch.Json.Document
import AssetSearch.Json.Number

namespace AssetSearch.Json

/-- Values are nested at most this deep. -/
def nestingLimit : Nat := 127

/-- A member with the same name is replaced. -/
def insertMember (name : String) (value : Value) :
    List (String × Value) → List (String × Value)
  | [] => [(name, value)]
  | (other, otherValue) :: later =>
      if name < other then (name, value) :: (other, otherValue) :: later
      else if name = other then (name, value) :: later
      else (other, otherValue) :: insertMember name value later

mutual

/-- Every container uses up one level of nesting. -/
def Value.ofDocument? (levels : Nat) : Document → Option Value
  | .null => some .null
  | .truth value => some (.truth value)
  | .number numeral => (JsonNumber.ofNumeral? numeral).map .number
  | .text content => content.map .text
  | .list items =>
      match levels with
      | 0 => none
      | levels + 1 => (valuesOfDocuments? levels items).map .list
  | .object members =>
      match levels with
      | 0 => none
      | levels + 1 =>
          (membersOfDocuments? levels members).map fun values =>
            .object (values.foldl (fun sorted member => insertMember member.1 member.2 sorted) [])

def valuesOfDocuments? (levels : Nat) : List Document → Option (List Value)
  | [] => some []
  | item :: later =>
      match Value.ofDocument? levels item with
      | none => none
      | some value => (valuesOfDocuments? levels later).map (value :: ·)

def membersOfDocuments? (levels : Nat) :
    List (Option String × Document) → Option (List (String × Value))
  | [] => some []
  | member :: later =>
      match memberOfDocument? levels member with
      | none => none
      | some value => (membersOfDocuments? levels later).map (value :: ·)

def memberOfDocument? (levels : Nat) : Option String × Document → Option (String × Value)
  | (name, document) =>
      match name with
      | none => none
      | some name => (Value.ofDocument? levels document).map fun value => (name, value)

end

/-- This is the value of a complete text. -/
def Value.ofText? (text : String) : Option Value :=
  (Document.ofText? text).bind (Value.ofDocument? nestingLimit)

end AssetSearch.Json

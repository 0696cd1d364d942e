/-
This file describes what a catalog is to those who use it: a finite map from identities to custom
fields. It says how each operation changes the map and which answers it may give.
-/

import AssetSearch.Catalog.Store
import AssetSearch.Proofs.Text.Ordered
import AssetSearch.Proofs.Time.StoredTime
import Mathlib.Data.Finmap
import Mathlib.Data.Option.Defs

namespace AssetSearch.Catalog

open AssetSearch.Text

inductive Operation where
  | upsert (field : CustomField)
  | rename (id name : String)
  | delete (id : String)
  | get (id : String)
  | list (teamId : String)
  | slugs (teamId : String)
  deriving DecidableEq, Repr

inductive Answer where
  | failed (failure : Failure)
  | done
  | found (isFound : Bool)
  | field (field : Option CustomField)
  | fields (fields : List CustomField)
  | slugs (slugs : List String)
  deriving DecidableEq, Repr

namespace Store

/-- A failure leaves the store as it was. -/
def answerChange {Content : Type} (store : Store) (toAnswer : Content → Answer) :
    Except Failure (Content × Store) → Answer × Store
  | .error failure => (.failed failure, store)
  | .ok (content, changed) => (toAnswer content, changed)

/-- A reading operation has no store to change. -/
def answerReading {Content : Type} (store : Store) (toAnswer : Content → Answer) :
    Except Failure Content → Answer × Store
  | .error failure => (.failed failure, store)
  | .ok content => (toAnswer content, store)

def perform (store : Store) : Operation → Answer × Store
  | .upsert field =>
      store.answerChange (fun _ => .done) ((store.upsert field).map fun changed => ((), changed))
  | .rename id name => store.answerChange .found (store.rename id name)
  | .delete id => store.answerChange .found (store.delete id)
  | .get id => store.answerReading .field (store.get id)
  | .list teamId => store.answerReading .fields (store.list teamId)
  | .slugs teamId => store.answerReading .slugs (store.slugs teamId)

/-- The operations are performed one after the other, and each of them has an answer. -/
def performAll (store : Store) : List Operation → List Answer × Store
  | [] => ([], store)
  | operation :: later =>
      let (answer, next) := store.perform operation
      let (answers, last) := next.performAll later
      (answer :: answers, last)

theorem performAll_cons (store : Store) (operation : Operation) (later : List Operation) :
    store.performAll (operation :: later) =
      ((store.perform operation).1 :: ((store.perform operation).2.performAll later).1,
        ((store.perform operation).2.performAll later).2) := rfl

end Store

/-- An identity is bound to at most one field. -/
abbrev FieldMap := Finmap fun _ : String => CustomField

/-- A field needs a team that is not blank, and its name needs a keyword. -/
def Operation.IsRejected : Operation → Prop
  | upsert field => trimmed field.teamId = "" ∨ field.slug = ""
  | rename _ name => slug name = ""
  | _ => False

instance (operation : Operation) : Decidable operation.IsRejected :=
  match operation with
  | .upsert _ => inferInstanceAs (Decidable (_ ∨ _))
  | .rename _ _ => inferInstanceAs (Decidable (_ = _))
  | .delete _ | .get _ | .list _ | .slugs _ => inferInstanceAs (Decidable False)

/-- A field that takes the place of an older one keeps its time of creation. -/
def CustomField.replacing (field : CustomField) : Option CustomField → CustomField
  | some older => { field with createdAt := older.createdAt }
  | none => field

/-- The keyword of a renamed field comes from its new name. -/
def CustomField.renamed (field : CustomField) (name : String) : CustomField :=
  { field with name := name, slug := Catalog.slug name }

namespace FieldMap

/-- Only the field with the identity of the operation is changed. -/
def after (map : FieldMap) (operation : Operation) : FieldMap :=
  if operation.IsRejected then map
  else
    match operation with
    | .upsert field => map.insert field.id (field.replacing (map.lookup field.id))
    | .rename id name =>
        match map.lookup id with
        | some field => map.insert id (field.renamed name)
        | none => map
    | .delete id => map.erase id
    | .get _ | .list _ | .slugs _ => map

end FieldMap

end AssetSearch.Catalog

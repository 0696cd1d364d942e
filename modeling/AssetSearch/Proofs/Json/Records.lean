/-
This file shows what decoders make of the documents of written values.
-/

import AssetSearch.Json.Record
import AssetSearch.Proofs.Json.WrittenValues
import AssetSearch.Proofs.Time.DocumentTimes

namespace AssetSearch.Json

open AssetSearch.Time

/-- The time is read from some text. -/
def IsDecoded (instant : Instant) : Prop :=
  ∃ text, Rfc3339.readRelaxed text = .ok instant

namespace Fields

/-- The members of a written object are those of a record if each of them is one of its fields and
none is given twice. -/
theorem ofDocument?_object {names : List String} {members : List (String × Value)}
    (known : ∀ member ∈ members, member.1 ∈ names) (once : (members.map Prod.fst).Nodup) :
    ofDocument? names (Value.object members).document =
      some ⟨members.map fun member => (member.1, member.2.document), false⟩ := by
  have documents : memberDocuments members =
      members.map fun member => (some member.1, member.2.document) := by
    clear known once
    induction members with
    | nil => rfl
    | cons member later inductionHypothesis =>
        obtain ⟨name, value⟩ := member
        rw [memberDocuments, inductionHypothesis, memberDocument, List.map_cons]
  have kept : (memberDocuments members).filterMap (fun member =>
      member.1.bind fun name => if names.contains name then some (name, member.2) else none) =
        members.map fun member => (member.1, member.2.document) := by
    rw [documents, List.filterMap_map, ← List.filterMap_eq_map]
    refine List.filterMap_congr fun member inside => ?_
    have isKnown := known member inside
    simp [isKnown]
  rw [Value.document, ofDocument?, ofMembers?]
  simp only [kept]
  simp [documents, Function.comp_def, once]

end Fields

namespace Decoder

theorem natural_ofNat {value : Nat} (small : value < 2 ^ 64) :
    natural (Value.ofNat value).document = some value := by
  have fits : value ≤ largestNatural := Nat.le_pred_of_lt small
  rw [Value.ofNat, Value.document, natural, ofNumeral?_ofNat fits]
  simp

theorem instant_text {instant : Instant} (decoded : IsDecoded instant) :
    Decoder.instant (Value.text (Rfc3339.text instant)).document = some instant := by
  obtain ⟨source, read⟩ := decoded
  rw [Value.document, Decoder.instant, Rfc3339.readRelaxed_text_ofRead read]
  rfl

theorem text_text (content : String) : text (Value.text content).document = some content := rfl

/-- An absent text is written as null. -/
theorem optional_ofOption (content : Option String) :
    text.optional (Value.ofOption .text content).document = some content := by
  cases content with
  | none => rfl
  | some content => rfl

theorem named_text {Content : Type} (ofName? : String → Option Content) (name : String) :
    named ofName? (Value.text name).document = ofName? name := rfl

/-- The text of a value without fractions is decoded like its document. -/
theorem ofText?_write {Content : Type} (decoder : Decoder Content) {layout : Layout}
    (blank : layout.IsBlank) (depth : Nat) {value : Value} (integral : value.IsIntegral) :
    decoder.ofText? (value.write layout depth) = decoder value.document := by
  rw [Decoder.ofText?, Json.ofText?_write blank depth integral, Option.bind_some]

end Decoder

end AssetSearch.Json

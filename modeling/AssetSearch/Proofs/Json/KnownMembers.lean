/-
This file shows what a record makes of the members of any object: those of its own fields are found
by their names, wherever they stand, and the others are passed over.
-/

import AssetSearch.Json.Record
import Mathlib.Data.List.Nodup

namespace AssetSearch.Json

/-- These are the documents of all members with the name, in order. -/
def valuesOf (name : String) (members : List (Option String × Document)) : List Document :=
  members.filterMap fun member => if member.1 = some name then some member.2 else none

namespace Fields

/-- These are the members for the fields with the names. -/
def known (names : List String) (members : List (Option String × Document)) :
    List (String × Document) :=
  members.filterMap fun member =>
    member.1.bind fun name => if names.contains name then some (name, member.2) else none

variable {names : List String} {name : String} {members : List (Option String × Document)}

theorem lookup_known (isField : name ∈ names) :
    (known names members).lookup name = (valuesOf name members).head? := by
  rw [List.lookup_eq_findSome?, ← List.head?_filterMap, known, List.filterMap_filterMap, valuesOf]
  congr 2
  funext member
  obtain ⟨given, document⟩ := member
  cases given with
  | none => rfl
  | some given =>
      by_cases same : given = name
      · simp [same, isField]
      · by_cases isKnown : given ∈ names <;> simp [same, Ne.symm same, isKnown]

theorem count_known (name : String) : ((known names members).map Prod.fst).count name =
    if name ∈ names then (valuesOf name members).length else 0 := by
  rw [List.count_eq_countP, List.countP_map, known, List.countP_filterMap, valuesOf,
    List.length_filterMap_eq_countP]
  split
  · next isField =>
      refine List.countP_congr fun member _ => ?_
      obtain ⟨given, document⟩ := member
      cases given with
      | none => simp
      | some given =>
          by_cases same : given = name
          · simp [same, isField]
          · by_cases isKnown : given ∈ names <;> simp [same, isKnown]
  · next isOther =>
      refine List.countP_eq_zero.mpr fun member _ => ?_
      obtain ⟨given, document⟩ := member
      cases given with
      | none => simp
      | some given =>
          by_cases isKnown : given ∈ names
          · simp [isKnown, ne_of_mem_of_not_mem isKnown isOther]
          · simp [isKnown]

/-- No field is given twice if and only if none of the names has two members. -/
theorem nodup_known_iff : ((known names members).map Prod.fst).Nodup ↔
    ∀ name ∈ names, (valuesOf name members).length ≤ 1 := by
  rw [List.nodup_iff_count_le_one]
  refine forall_congr' fun name => ?_
  rw [count_known]
  split
  · next isField => exact (imp_iff_right isField).symm
  · next isOther => simp [isOther]

theorem ofMembers?_eq : ofMembers? names members =
    if members.all (·.1.isSome) && ((known names members).map Prod.fst).Nodup then
      some ⟨known names members, false⟩
    else none := rfl

/-- An object is a record if all of its names are texts and no field is given twice. -/
theorem ofDocument?_eq_some_iff {fields : Fields} :
    ofDocument? names (.object members) = some fields ↔
      (∀ member ∈ members, member.1.isSome) ∧
      (∀ name ∈ names, (valuesOf name members).length ≤ 1) ∧
      fields = ⟨known names members, false⟩ := by
  rw [← nodup_known_iff, ofDocument?, ofMembers?_eq]
  simp only [Bool.and_eq_true, List.all_eq_true, decide_eq_true_eq, Option.ite_none_right_eq_some,
    Option.some.injEq, and_assoc, eq_comm (a := fields)]

section

variable {Content : Type} (decoder : Decoder Content)

theorem required_known (isField : name ∈ names) :
    required ⟨known names members, false⟩ name decoder =
      (valuesOf name members).head?.bind decoder := by
  rw [required, lookup_known isField]

/-- The default stands for a missing member only. -/
theorem withDefault_known (isField : name ∈ names) (default : Content) :
    withDefault ⟨known names members, false⟩ name default decoder =
      (valuesOf name members).head?.elim (some default) decoder := by
  rw [withDefault, lookup_known isField]
  cases (valuesOf name members).head? <;> rfl

theorem optional_known (isField : name ∈ names) :
    optional ⟨known names members, false⟩ name decoder =
      (valuesOf name members).head?.elim (some none) decoder.optional := by
  rw [optional, lookup_known isField]
  cases (valuesOf name members).head? <;> rfl

end

end Fields

/-- A text that may be missing is left out or null. -/
inductive GivesText : List Document → Option String → Prop
  | missing : GivesText [] none
  | null : GivesText [.null] none
  | text (content : String) : GivesText [.text (some content)] (some content)

/-- The text is read from no member or from one. -/
theorem givesText_iff {documents : List Document} {content : Option String} :
    GivesText documents content ↔ documents.length ≤ 1 ∧
      documents.head?.elim (some none) Decoder.text.optional = some content := by
  constructor
  · intro gives
    cases gives with
    | missing => exact ⟨Nat.zero_le 1, rfl⟩
    | null => exact ⟨Nat.le_refl 1, rfl⟩
    | text content => exact ⟨Nat.le_refl 1, rfl⟩
  · rintro ⟨short, read⟩
    match documents, short, read with
    | [], _, read =>
        cases read
        exact .missing
    | [.null], _, read =>
        cases read
        exact .null
    | [.text (some content)], _, read =>
        cases read
        exact .text content

end AssetSearch.Json

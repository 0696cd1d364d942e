/-
This file shows that keywords which a query does not use make no difference to its compilation. A
query uses a name if one of its tokens could be a pair with it.
-/

import AssetSearch.Proofs.Query.FreeText
import AssetSearch.Proofs.Query.Keywords

namespace AssetSearch.Query

/-- The name stands before the first colon of a token of the query, and something follows the
colon. -/
def UsesName (query name : String) : Prop :=
  ∃ token ∈ tokenTexts query, ∃ rest,
    token = name ++ ":" ++ rest ∧ ':' ∉ name.toList ∧ rest ≠ ""

/-- For the names that the query uses it makes no difference which of the vocabularies is asked. -/
def AgreeFor (query : String) (vocabulary other : Vocabulary) : Prop :=
  ∀ name, UsesName query name → vocabulary.contains name = other.contains name

section

variable {vocabulary other : Vocabulary} {query : String}

/-- The names that a query uses can be read off its tokens. -/
theorem agreeFor_iff : AgreeFor query vocabulary other ↔
    ∀ token ∈ tokenTexts query, ∀ pair ∈ splitAtColon token.toList, pair.2 ≠ [] →
      vocabulary.contains (String.ofList pair.1) = other.contains (String.ofList pair.1) := by
  constructor
  · intro agree token inside pair split filled
    obtain ⟨text, firstColon⟩ := splitAtColon_eq_some_iff.mp split
    refine agree _ ⟨token, inside, String.ofList pair.2, ?_, ?_, ?_⟩
    · rw [← String.toList_inj, text]
      simp
    · rw [String.toList_ofList]
      exact firstColon
    · rw [ne_eq, ← String.toList_inj, String.toList_ofList]
      exact filled
  · intro agree name used
    obtain ⟨token, inside, rest, rfl, firstColon, filled⟩ := used
    have split : splitAtColon (name ++ ":" ++ rest).toList = some (name.toList, rest.toList) :=
      splitAtColon_eq_some_iff.mpr ⟨by simp, firstColon⟩
    have same := agree _ inside _ split
    rw [String.ofList_toList] at same
    exact same fun empty => filled (String.toList_eq_nil_iff.mp empty)

instance : Decidable (AgreeFor query vocabulary other) :=
  decidable_of_iff _ agreeFor_iff.symm

theorem AgreeFor.ofQuery_eq (agree : AgreeFor query vocabulary other) :
    CompiledQuery.ofQuery vocabulary query = CompiledQuery.ofQuery other query := by
  apply CompiledQuery.ofQuery_congr_of_tokens
  intro token inside
  have names := agreeFor_iff.mp agree token.text (List.mem_map_of_mem inside)
  rw [Token.text, String.toList_ofList] at names
  exact names

end

/-- The order and the number of slugs do not count, nor do those that are empty, those that repeat
the kind keyword and those with a colon. -/
def SameKeywords (slugs others : List String) : Prop :=
  ∀ slug, slug ≠ "" → slug ≠ kindKeyword → ':' ∉ slug.toList → (slug ∈ slugs ↔ slug ∈ others)

theorem SameKeywords.agreeFor {slugs others : List String} (same : SameKeywords slugs others)
    (query : String) : AgreeFor query (.ofSlugs slugs) (.ofSlugs others) := by
  intro name used
  obtain ⟨token, -, rest, -, noColon, -⟩ := used
  rw [Bool.eq_iff_iff, Vocabulary.contains_ofSlugs, Vocabulary.contains_ofSlugs]
  by_cases isKind : name = kindKeyword
  · exact iff_of_true (Or.inl isKind) (Or.inl isKind)
  · rw [or_iff_right isKind, or_iff_right isKind]
    exact and_congr_right fun filled => same name filled isKind noColon

/-- Two lists of slugs that agree for the names of a query compile it to the same text, filter and
kind, whatever else they hold. In particular no query tells lists with the same keywords apart. -/
theorem ofQuery_ignoresUnused (slugs others : List String) :
    (∀ query, AgreeFor query (.ofSlugs slugs) (.ofSlugs others) →
      CompiledQuery.ofQuery (.ofSlugs slugs) query =
        CompiledQuery.ofQuery (.ofSlugs others) query) ∧
    (SameKeywords slugs others → ∀ query,
      CompiledQuery.ofQuery (.ofSlugs slugs) query =
        CompiledQuery.ofQuery (.ofSlugs others) query) := by
  constructor
  · intro query agree
    exact agree.ofQuery_eq
  · intro same query
    exact (same.agreeFor query).ofQuery_eq

/-- The name of the second token is not used, and the third token is no pair with a slug. -/
def mixedQuery : String := "serial:>3 note: \"colour of:x\" is:tag"

theorem ofQuery_ignoresUnused_mixedQuery :
    AgreeFor mixedQuery (.ofSlugs ["serial", "colour", "colour of"])
      (.ofSlugs ["note", "serial"]) ∧
    SameKeywords ["serial", "note"] ["note", "", "is", "serial", "a:b", "note"] ∧
    CompiledQuery.ofQuery (.ofSlugs ["serial", "colour", "colour of"]) mixedQuery =
      ⟨some "note: \"colour of:x\"", some "serial > 3", some .tag⟩ ∧
    ∀ query, CompiledQuery.ofQuery (.ofSlugs ["serial", "note"]) query =
      CompiledQuery.ofQuery (.ofSlugs ["note", "", "is", "serial", "a:b", "note"]) query := by
  have same : SameKeywords ["serial", "note"] ["note", "", "is", "serial", "a:b", "note"] := by
    intro slug filled isField noColon
    have other : slug ≠ "a:b" := by
      rintro rfl
      exact noColon (by decide)
    have notKind : slug ≠ "is" := isField
    simp [filled, notKind, other, or_comm]
  have agree : AgreeFor mixedQuery (.ofSlugs ["serial", "colour", "colour of"])
      (.ofSlugs ["note", "serial"]) := by decide
  refine ⟨agree, same, ?_, (ofQuery_ignoresUnused _ _).2 same⟩
  rw [(ofQuery_ignoresUnused _ _).1 mixedQuery agree]
  decide +kernel

end AssetSearch.Query

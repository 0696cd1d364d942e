/-
This file shows which names a vocabulary holds, and that the compilation of a query depends on
nothing else about the vocabulary.
-/

import AssetSearch.Proofs.Text.Ordered
import AssetSearch.Query.Compiled

namespace AssetSearch.Query

open AssetSearch.Text

namespace Vocabulary

theorem contains_iff {vocabulary : Vocabulary} {name : String} :
    vocabulary.contains name = true ↔ name ∈ vocabulary.names :=
  List.contains_iff_mem

theorem contains_base {name : String} : base.contains name = true ↔ name = kindKeyword := by
  rw [contains_iff, base, List.mem_singleton]

theorem contains_insert {vocabulary : Vocabulary} {name other : String} :
    (vocabulary.insert name).contains other = true ↔
      (other ≠ "" ∧ other = name) ∨ vocabulary.contains other = true := by
  rw [insert]
  split
  · next empty =>
      rw [String.isEmpty_iff] at empty
      subst empty
      rw [or_iff_right]
      intro given
      exact given.1 given.2
  · next filled =>
      rw [String.isEmpty_iff] at filled
      rw [contains_iff, mem_insertOrdered, contains_iff]
      refine or_congr_left ⟨?_, And.right⟩
      intro same
      subst same
      exact ⟨filled, rfl⟩

/-- The names are the kind keyword and the slugs that are not empty. -/
theorem contains_ofSlugs {slugs : List String} {name : String} :
    (ofSlugs slugs).contains name = true ↔ name = kindKeyword ∨ (name ≠ "" ∧ name ∈ slugs) := by
  have general : ∀ vocabulary : Vocabulary,
      (slugs.foldl insert vocabulary).contains name = true ↔
        vocabulary.contains name = true ∨ (name ≠ "" ∧ name ∈ slugs) := by
    induction slugs with
    | nil => simp
    | cons first later inductionHypothesis =>
        intro vocabulary
        rw [List.foldl_cons, inductionHypothesis, contains_insert, List.mem_cons, and_or_left,
          or_assoc, or_left_comm]
  rw [ofSlugs, general, contains_base]

end Vocabulary

section

variable {vocabulary other : Vocabulary} {query : String}

/-- A token asks the vocabulary for no other name than the one before its first colon. -/
theorem Token.pair?_congr {token : Token}
    (agree : ∀ pair ∈ splitAtColon token.characters, pair.2 ≠ [] →
      vocabulary.contains (String.ofList pair.1) = other.contains (String.ofList pair.1)) :
    token.pair? vocabulary = token.pair? other := by
  unfold Token.pair?
  split
  · rfl
  · next name rest split =>
      by_cases filled : rest = []
      · simp [filled]
      · rw [agree (name, rest) split filled]

/-- The choice between the two ways of compilation also depends on the pairs only. -/
theorem CompiledQuery.ofQuery_congr_of_tokens
    (agree : ∀ token ∈ tokens query.toList, ∀ pair ∈ splitAtColon token.characters, pair.2 ≠ [] →
      vocabulary.contains (String.ofList pair.1) = other.contains (String.ofList pair.1)) :
    ofQuery vocabulary query = ofQuery other query := by
  have pieces : (tokens query.toList).map (Piece.ofToken vocabulary) =
      (tokens query.toList).map (Piece.ofToken other) := by
    apply List.map_congr_left
    intro token inside
    rw [Piece.ofToken, Token.pair?_congr (agree token inside), Piece.ofToken]
  rw [ofQuery, Reading.ofQuery, pieces, ofQuery, Reading.ofQuery]

end

end AssetSearch.Query

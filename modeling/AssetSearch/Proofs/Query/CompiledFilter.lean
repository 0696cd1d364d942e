/-
This file shows that the filter of a compiled query can be read in one way only. Its terms are those
of the pairs of the query, whatever their values hold.
-/

import AssetSearch.Proofs.Query.FilterReader
import AssetSearch.Proofs.Query.FreeText

namespace AssetSearch.Query

/-- This is the keyword of a pair and its value, unless the pair selects a kind. -/
def Piece.field? : Piece → Option (String × String)
  | pair keyword value _ => if keyword = kindKeyword then none else some (keyword, value)
  | text .. => none

/-- These are the pairs of a query that compare a field with a value, in order. -/
def Reading.fields : Reading → List (String × String)
  | .plain _ => []
  | .pieces found => found.filterMap Piece.field?

/-- This is the term that the pair asks for. -/
def termOfPair (pair : String × String) : FilterTerm :=
  ⟨pair.1, .ofValue pair.2⟩

theorem filterTerms_eq (pieces : List Piece) :
    filterTerms pieces = (pieces.filterMap Piece.field?).map termOfPair := by
  rw [filterTerms, List.map_filterMap]
  congr 1
  funext piece
  cases piece with
  | pair keyword value span =>
      by_cases isKind : keyword = kindKeyword
      · simp only [Piece.term?, Piece.field?, isKind, if_true, Option.map_none]
      · simp only [Piece.term?, Piece.field?, isKind, if_false, Option.map_some, termOfPair]
  | text content span => rfl

theorem CompiledQuery.ofReading_filter (reading : Reading) :
    (CompiledQuery.ofReading reading).filter =
      joinNonempty conjunction ((reading.fields.map termOfPair).map FilterTerm.text) := by
  cases reading with
  | plain query => rfl
  | pieces found =>
      rw [CompiledQuery.ofReading, CompiledQuery.ofPieces, filterTerms_eq]
      rfl

/-- Only recognized keywords become fields. -/
theorem Reading.fields_recognized {vocabulary : Vocabulary} {query : String}
    {pair : String × String} (inside : pair ∈ (Reading.ofQuery vocabulary query).fields) :
    vocabulary.contains pair.1 = true := by
  unfold Reading.ofQuery at inside
  simp only at inside
  split at inside
  · obtain ⟨piece, found, isField⟩ := List.mem_filterMap.mp inside
    obtain ⟨token, -, rfl⟩ := List.mem_map.mp found
    rcases Piece.ofToken_cases vocabulary token with ⟨-, text⟩ | ⟨name, raw, isPair, isPiece⟩
    · rw [text] at isField
      cases isField
    · rw [isPiece, Piece.field?, Option.ite_none_left_eq_some] at isField
      cases isField.2
      exact isPair.recognized
  · cases inside

/-- No value breaks out of its term: the reader finds one term for each pair with a field, in
order, and each of them has the field, the comparison and the value that the pair asks for. -/
theorem compiledFilter_readsBack {vocabulary : Vocabulary} {query : String}
    (noSpace : ∀ name, vocabulary.contains name = true → ' ' ∉ name.toList)
    (someField : (Reading.ofQuery vocabulary query).fields ≠ []) :
    ∃ filter, (CompiledQuery.ofQuery vocabulary query).filter = some filter ∧
      readFilter filter.toList = some ((Reading.ofQuery vocabulary query).fields.map
        fun pair => (termOfPair pair).reading) := by
  have someTerm : (Reading.ofQuery vocabulary query).fields.map termOfPair ≠ [] := by
    rw [ne_eq, List.map_eq_nil_iff]
    exact someField
  refine ⟨conjunction (((Reading.ofQuery vocabulary query).fields.map termOfPair).map
    FilterTerm.text), ?_, ?_⟩
  · rw [CompiledQuery.ofQuery, CompiledQuery.ofReading_filter, joinNonempty_eq_some_iff]
    refine ⟨?_, rfl⟩
    rw [ne_eq, List.map_eq_nil_iff]
    exact someTerm
  · rw [readFilter_conjunction someTerm, List.map_map]
    · rfl
    · intro term inside
      obtain ⟨pair, isField, rfl⟩ := List.mem_map.mp inside
      exact ⟨noSpace pair.1 (Reading.fields_recognized isField),
        Condition.ofValue_readable pair.2⟩

/-- Quotes, a backslash and a separator in a value do not end its term. -/
theorem compiledFilter_readsBack_quotes :
    (∀ name, (Vocabulary.ofSlugs ["name", "size", "date"]).contains name = true →
      ' ' ∉ name.toList) ∧
    (Reading.ofQuery (.ofSlugs ["name", "size", "date"])
      "size:>1e3 date:<1970-01-02 name:a\" AND size = \"\\").fields ≠ [] ∧
    ∃ filter,
      (CompiledQuery.ofQuery (.ofSlugs ["name", "size", "date"])
        "size:>1e3 date:<1970-01-02 name:a\" AND size = \"\\").filter = some filter ∧
      readFilter filter.toList =
        some [⟨"size", .greater, .bare "1e3"⟩, ⟨"date", .less, .bare "86400000"⟩,
          ⟨"name", .equal, .quoted "a\" AND size = \"\\"⟩] := by
  have noSpace : ∀ name, (Vocabulary.ofSlugs ["name", "size", "date"]).contains name = true →
      ' ' ∉ name.toList := by
    have each : ∀ name ∈ (Vocabulary.ofSlugs ["name", "size", "date"]).names,
        ' ' ∉ name.toList := by decide
    intro name recognized
    exact each name (List.contains_iff_mem.mp recognized)
  have fields : (Reading.ofQuery (.ofSlugs ["name", "size", "date"])
      "size:>1e3 date:<1970-01-02 name:a\" AND size = \"\\").fields =
        [("size", ">1e3"), ("date", "<1970-01-02"), ("name", "a\" AND size = \"\\")] := by decide
  have someField : (Reading.ofQuery (.ofSlugs ["name", "size", "date"])
      "size:>1e3 date:<1970-01-02 name:a\" AND size = \"\\").fields ≠ [] := by
    rw [fields]
    exact List.cons_ne_nil _ _
  refine ⟨noSpace, someField, ?_⟩
  obtain ⟨filter, compiled, read⟩ := compiledFilter_readsBack noSpace someField
  refine ⟨filter, compiled, ?_⟩
  rw [read, fields]
  decide +kernel

end AssetSearch.Query

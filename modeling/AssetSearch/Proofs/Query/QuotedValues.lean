/-
This file shows that a quoted value reaches the filter of a query as it stands, whatever stands
before and after it. Only the blanks at its two ends are lost.
-/

import AssetSearch.Proofs.Query.CompiledFilter
import AssetSearch.Proofs.Query.Composition

namespace AssetSearch.Query

open AssetSearch.Text

/-- A text without quotes is scanned in one piece if it is quoted or has no blanks. -/
theorem tokensFrom_piece (position : Nat) {quoted : Bool} {piece : List Char}
    (noQuote : '"' ∉ piece)
    (unbroken : quoted = true ∨ ∀ character ∈ piece, isBlank character = false)
    (rest : List Char) :
    tokensFrom position quoted (piece ++ rest) =
      (piece ++ (tokensFrom (position + byteLength piece) quoted rest).1,
        (tokensFrom (position + byteLength piece) quoted rest).2) := by
  induction piece generalizing position with
  | nil => rfl
  | cons character piece inductionHypothesis =>
      rw [List.mem_cons, not_or] at noQuote
      have different : (character == '"') = false := beq_eq_false_iff_ne.mpr (Ne.symm noQuote.1)
      have solid : (isBlank character && !quoted) = false := by
        rcases unbroken with isQuoted | noBlank
        · rw [isQuoted, Bool.not_true, Bool.and_false]
        · rw [noBlank character List.mem_cons_self, Bool.false_and]
      have later := inductionHypothesis (position + character.utf8Size) noQuote.2
        (unbroken.imp_right fun noBlank other inside =>
          noBlank other (List.mem_cons_of_mem _ inside))
      rw [List.cons_append, tokensFrom_solid _ solid, different, Bool.bne_false, later, byteLength,
        Nat.add_assoc]
      rfl

/-- This is a token that gives the value between quotes. -/
def quotedPair (name value : String) : String :=
  name ++ ":\"" ++ value ++ "\""

/-- A name of this kind can be typed in front of a colon. -/
structure IsPlainName (name : String) : Prop where
  noColon : ':' ∉ name.toList
  noQuote : '"' ∉ name.toList
  noBlank : ∀ character ∈ name.toList, isBlank character = false

section

variable {vocabulary : Vocabulary} {name value : String}

theorem quotedPair_toList (name value : String) :
    (quotedPair name value).toList =
      (name.toList ++ [':']) ++ '"' :: (value.toList ++ ['"']) := by
  simp [quotedPair]

/-- Neither the colon nor the quotes end the token, and the blanks of the value do not either. -/
theorem quotedPair_isWord (plain : IsPlainName name) (noQuote : '"' ∉ value.toList) :
    IsWord (quotedPair name value).toList := by
  have noQuoteBefore : '"' ∉ name.toList ++ [':'] := by
    simp [plain.noQuote]
  have noBlankBefore : ∀ character ∈ name.toList ++ [':'], isBlank character = false := by
    intro character inside
    rcases List.mem_append.mp inside with inName | colon
    · exact plain.noBlank character inName
    · rw [List.mem_singleton.mp colon]
      rfl
  rw [quotedPair_toList]
  refine ⟨?_, ?_, ?_, ?_⟩
  · intro position
    have quote : (isBlank '"' && !false) = false := rfl
    have opens : (false != ('"' == '"')) = true := rfl
    rw [tokensFrom_piece position noQuoteBefore (Or.inr noBlankBefore), tokensFrom_solid _ quote,
      opens, tokensFrom_piece _ noQuote (Or.inl rfl), tokensFrom_solid _ rfl]
    rfl
  · simp
  · rw [startsSolid_append (by simp)]
    intro character first
    exact noBlankBefore character (List.mem_of_head? first)
  · rw [endsSolid_append (by simp), ← List.cons_append, endsSolid_append (by simp)]
    exact endsSolid_singleton.mpr rfl

theorem quotedPair_closed (plain : IsPlainName name) (noQuote : '"' ∉ value.toList) :
    (quotedPair name value).toList.count '"' % 2 = 0 := by
  rw [quotedPair_toList]
  simp [List.count_eq_zero.mpr plain.noQuote, List.count_eq_zero.mpr noQuote]

theorem quotedPair_isPair (recognized : vocabulary.contains name = true)
    (plain : IsPlainName name) (value : String) :
    IsPair vocabulary (quotedPair name value) name ("\"" ++ value ++ "\"") where
  text := by simp [quotedPair, ← String.toList_inj]
  firstColon := plain.noColon
  recognized := recognized
  filled := by simp [← String.toList_inj]

end

/-- This is the field that a token with this text is compared with, and the value. -/
def fieldOfText? (vocabulary : Vocabulary) (text : String) : Option (String × String) :=
  (Piece.ofToken vocabulary ⟨text.toList, 0⟩).field?

/-- These are the terms that the filter of a compiled query has. -/
def compiledTerms (vocabulary : Vocabulary) (query : String) : List FilterTerm :=
  (Reading.ofQuery vocabulary query).fields.map termOfPair

section

variable {vocabulary : Vocabulary} {name value query : String}

theorem fieldOfText?_pair {text : String} {raw : String}
    (pair : IsPair vocabulary text name raw) (isField : name ≠ kindKeyword) :
    fieldOfText? vocabulary text = some (name, unquoted raw) := by
  have sameText : (⟨text.toList, 0⟩ : Token).text = text := String.ofList_toList
  have found : (⟨text.toList, 0⟩ : Token).pair? vocabulary = some (name, unquoted raw) :=
    pair?_eq_some_iff.mpr ⟨raw, by rw [sameText]; exact pair, rfl⟩
  rw [fieldOfText?, Piece.ofToken, found]
  exact if_neg isField

/-- A token is a field by its text, wherever it stands in the query. -/
theorem Piece.field?_ofToken (vocabulary : Vocabulary) (token : Token) :
    (Piece.ofToken vocabulary token).field? = fieldOfText? vocabulary token.text := by
  have samePair : (⟨token.text.toList, 0⟩ : Token).pair? vocabulary = token.pair? vocabulary := by
    rw [Token.pair?, Token.text, String.toList_ofList, Token.pair?]
  rw [fieldOfText?, Piece.ofToken, Piece.ofToken, samePair]
  cases token.pair? vocabulary with
  | none => rfl
  | some pair => rfl

theorem Piece.field?_eq_none {piece : Piece} (noPair : ¬ piece.isPair = true) :
    piece.field? = none := by
  cases piece with
  | pair keyword value span => exact absurd rfl noPair
  | text content span => rfl

/-- The fields of a query are those of its tokens, also if it has none and is kept whole. -/
theorem Reading.fields_eq (vocabulary : Vocabulary) (query : String) :
    (Reading.ofQuery vocabulary query).fields =
      (tokenTexts query).filterMap (fieldOfText? vocabulary) := by
  have pieces : (tokenTexts query).filterMap (fieldOfText? vocabulary) =
      ((tokens query.toList).map (Piece.ofToken vocabulary)).filterMap Piece.field? := by
    rw [tokenTexts, List.filterMap_map, List.filterMap_map]
    congr 1
    funext token
    exact (Piece.field?_ofToken vocabulary token).symm
  rw [pieces, Reading.ofQuery]
  split
  · rfl
  · next noPair =>
      rw [List.any_eq_true] at noPair
      symm
      rw [Reading.fields, List.filterMap_eq_nil_iff]
      intro piece inside
      exact Piece.field?_eq_none fun isPair => noPair ⟨piece, inside, isPair⟩

theorem compiledTerms_eq (vocabulary : Vocabulary) (query : String) :
    compiledTerms vocabulary query =
      ((tokenTexts query).filterMap (fieldOfText? vocabulary)).map termOfPair := by
  rw [compiledTerms, Reading.fields_eq]

theorem CompiledQuery.ofQuery_filter (vocabulary : Vocabulary) (query : String) :
    (ofQuery vocabulary query).filter =
      joinNonempty conjunction ((compiledTerms vocabulary query).map FilterTerm.text) :=
  ofReading_filter _

theorem compiledTerms_append (vocabulary : Vocabulary) {first blanks : String}
    (closed : first.toList.count '"' % 2 = 0) (nonempty : blanks ≠ "")
    (blank : AllBlank blanks.toList) (second : String) :
    compiledTerms vocabulary (first ++ blanks ++ second) =
      compiledTerms vocabulary first ++ compiledTerms vocabulary second := by
  rw [compiledTerms_eq, tokenTexts_append closed nonempty blank, List.filterMap_append,
    List.map_append, ← compiledTerms_eq, ← compiledTerms_eq]

theorem compiledTerms_quotedPair (recognized : vocabulary.contains name = true)
    (isField : name ≠ kindKeyword) (plain : IsPlainName name) (noQuote : '"' ∉ value.toList) :
    compiledTerms vocabulary (quotedPair name value) = [⟨name, .ofValue value⟩] := by
  have single : tokenTexts (quotedPair name value) = [quotedPair name value] := by
    rw [tokenTexts, (quotedPair_isWord plain noQuote).tokens_eq]
    simp [Token.text]
  have field := fieldOfText?_pair (quotedPair_isPair recognized plain value) isField
  rw [unquoted_quoted] at field
  rw [compiledTerms_eq, single, List.filterMap_cons_some field]
  rfl

end

/-- A value that is no comparison, no number and no time is compared as a text. -/
theorem Condition.ofValue_text {value : String} (notLess : (trim value.toList).head? ≠ some '<')
    (notGreater : (trim value.toList).head? ≠ some '>')
    (notNumber : Number.isFiniteNumeral (trim value.toList) = false)
    (notTime : Time.FilterDate.milliseconds? (trim value.toList) = none) :
    Condition.ofValue value = ⟨.equal, .text (trimmed value)⟩ := by
  have unmarked : Condition.ofTrimmed (trim value.toList) =
      ⟨.equal, .ofText (trim value.toList)⟩ := by
    unfold Condition.ofTrimmed
    split
    · next rest marked => exact absurd (congrArg List.head? marked) notLess
    · next rest marked => exact absurd (congrArg List.head? marked) notGreater
    · rfl
  rw [ofValue, unmarked, FilterValue.ofText, notNumber, notTime, trimmed]
  rfl

/-- A quoted value makes exactly one term, between the terms of what stands before it and of what
stands after it, and the term compares the field as the value asks for. A value that is a plain text
is found in the literal of the term without any change but the loss of the blanks at its ends. -/
theorem quotedValue_reachesFilter {vocabulary : Vocabulary} {name value before : String}
    (recognized : vocabulary.contains name = true) (isField : name ≠ kindKeyword)
    (plain : IsPlainName name) (noQuote : '"' ∉ value.toList)
    (closed : before.toList.count '"' % 2 = 0) (after : String) :
    let query := before ++ " " ++ quotedPair name value ++ " " ++ after
    let term : FilterTerm := ⟨name, .ofValue value⟩
    compiledTerms vocabulary query =
        compiledTerms vocabulary before ++ term :: compiledTerms vocabulary after ∧
      (CompiledQuery.ofQuery vocabulary query).filter =
        bothFilters (CompiledQuery.ofQuery vocabulary before).filter
          (bothFilters (some term.text) (CompiledQuery.ofQuery vocabulary after).filter) ∧
      ((trim value.toList).head? ≠ some '<' → (trim value.toList).head? ≠ some '>' →
        Number.isFiniteNumeral (trim value.toList) = false →
        Time.FilterDate.milliseconds? (trim value.toList) = none →
          term.condition.comparison = .equal ∧
            ∀ rest, readLiteral (term.condition.value.literal.toList ++ rest) =
              some (.quoted (trimmed value), rest)) := by
  intro query term
  have space : AllBlank " ".toList := allBlank_cons.mpr ⟨rfl, allBlank_nil⟩
  have terms : compiledTerms vocabulary query =
      compiledTerms vocabulary before ++ term :: compiledTerms vocabulary after := by
    have split : query = before ++ " " ++ (quotedPair name value ++ " " ++ after) := by
      simp only [query, String.append_assoc]
    rw [split, compiledTerms_append vocabulary closed (by decide) space,
      compiledTerms_append vocabulary (quotedPair_closed plain noQuote) (by decide) space,
      compiledTerms_quotedPair recognized isField plain noQuote, List.singleton_append]
  refine ⟨terms, ?_, ?_⟩
  · have single : joinNonempty conjunction [term.text] = some term.text := rfl
    simp only [CompiledQuery.ofQuery_filter, terms]
    rw [List.map_append, List.map_cons, ← List.singleton_append, joinNonempty_append,
      joinNonempty_append, single]
  · intro notLess notGreater notNumber notTime
    have condition : term.condition = ⟨.equal, .text (trimmed value)⟩ :=
      Condition.ofValue_text notLess notGreater notNumber notTime
    rw [condition]
    refine ⟨rfl, ?_⟩
    intro rest
    rw [FilterValue.literal, quotedLiteral, String.toList_ofList, readLiteral_quoted,
      String.ofList_toList]

/-- The value looks like a condition with a separator and a path, and a quote that is never closed
follows it. -/
theorem quotedValue_reachesFilter_separator :
    (Vocabulary.ofSlugs ["note", "size"]).contains "note" = true ∧ "note" ≠ kindKeyword ∧
    IsPlainName "note" ∧ '"' ∉ " C:\\temp AND size = 3 ".toList ∧
    "size:>3 \"a  b\"".toList.count '"' % 2 = 0 ∧
    (CompiledQuery.ofQuery (.ofSlugs ["note", "size"])
      ("size:>3 \"a  b\"" ++ " " ++ quotedPair "note" " C:\\temp AND size = 3 " ++ " " ++
        "size:<9 \"open")).filter =
      some "size > 3 AND note = \"C:\\\\temp AND size = 3\" AND size < 9" ∧
    ∀ rest,
      readLiteral ((Condition.ofValue " C:\\temp AND size = 3 ").value.literal.toList ++ rest) =
        some (.quoted "C:\\temp AND size = 3", rest) := by
  have recognized : (Vocabulary.ofSlugs ["note", "size"]).contains "note" = true := by decide
  have isField : "note" ≠ kindKeyword := by decide
  have noBlank : "note".toList.any isBlank = false := by decide
  have plain : IsPlainName "note" := ⟨by decide, by decide, by simpa using noBlank⟩
  have noQuote : '"' ∉ " C:\\temp AND size = 3 ".toList := by decide
  have closed : "size:>3 \"a  b\"".toList.count '"' % 2 = 0 := by decide
  obtain ⟨-, filter, literal⟩ :=
    quotedValue_reachesFilter recognized isField plain noQuote closed "size:<9 \"open"
  refine ⟨recognized, isField, plain, noQuote, closed, ?_, ?_⟩
  · rw [filter]
    decide +kernel
  · exact (literal (by decide) (by decide) (by decide) (by decide)).2

end AssetSearch.Query

/-
This file says which tokens are recognized pairs and shows that the reading of a query finds exactly
these.
-/

import AssetSearch.Query.Piece
import Mathlib.Data.List.TakeWhile

namespace AssetSearch.Query

/-- The name ends at the first colon of the token, and something follows the colon. -/
structure IsPair (vocabulary : Vocabulary) (token name value : String) : Prop where
  text : token = name ++ ":" ++ value
  firstColon : ':' ∉ name.toList
  recognized : vocabulary.contains name = true
  filled : value ≠ ""

/-- This is a value without the quotes around it. -/
def unquoted (value : String) : String :=
  String.ofList (unquote value.toList)

/-- The second text is the first one without its quotes. A quote in front is left out, and with it
a quote at the end of what stands behind it. -/
inductive StripsQuotes : String → String → Prop
  | both (inner : String) : StripsQuotes ("\"" ++ inner ++ "\"") inner
  | front {inner : String} (noLast : inner.toList.getLast? ≠ some '"') :
      StripsQuotes ("\"" ++ inner) inner
  | neither {value : String} (noFirst : value.toList.head? ≠ some '"') : StripsQuotes value value

theorem unquoted_quoted (value : String) : unquoted ("\"" ++ value ++ "\"") = value := by
  have quoted : ("\"" ++ value ++ "\"").toList = '"' :: (value.toList ++ ['"']) := by
    simp
  rw [unquoted, quoted, unquote]
  simp

theorem unquoted_front {inner : String} (noLast : inner.toList.getLast? ≠ some '"') :
    unquoted ("\"" ++ inner) = inner := by
  have text : ("\"" ++ inner).toList = '"' :: inner.toList := by simp
  rw [unquoted, text, unquote, if_neg noLast, String.ofList_toList]

theorem unquoted_ofNoQuote {value : String} (noFirst : value.toList.head? ≠ some '"') :
    unquoted value = value := by
  rw [unquoted, unquote.eq_def]
  split
  · next inner text => exact absurd (by rw [text, List.head?_cons]) noFirst
  · exact String.ofList_toList

/-- Exactly one text is left of a value. -/
theorem stripsQuotes_iff {raw value : String} : StripsQuotes raw value ↔ value = unquoted raw := by
  constructor
  · intro strips
    cases strips with
    | both => exact (unquoted_quoted value).symm
    | front noLast => exact (unquoted_front noLast).symm
    | neither noFirst => exact (unquoted_ofNoQuote noFirst).symm
  · rintro rfl
    by_cases first : raw.toList.head? = some '"'
    · obtain ⟨inner, text⟩ := List.head?_eq_some_iff.mp first
      by_cases last : inner.getLast? = some '"'
      · obtain ⟨content, rfl⟩ := List.getLast?_eq_some_iff.mp last
        obtain rfl : raw = "\"" ++ String.ofList content ++ "\"" := by
          rw [← String.toList_inj, text]
          simp
        rw [unquoted_quoted]
        exact .both _
      · obtain rfl : raw = "\"" ++ String.ofList inner := by
          rw [← String.toList_inj, text]
          simp
        have noLast : (String.ofList inner).toList.getLast? ≠ some '"' := by
          rwa [String.toList_ofList]
        rw [unquoted_front noLast]
        exact .front noLast
    · rw [unquoted_ofNoQuote first]
      exact .neither first

/-- The text before the first colon holds no colon. -/
theorem splitAtColon_eq_some_iff {characters name value : List Char} :
    splitAtColon characters = some (name, value) ↔
      characters = name ++ ':' :: value ∧ ':' ∉ name := by
  constructor
  · intro found
    rw [splitAtColon] at found
    split at found
    · cases found
    · next colon rest dropped =>
        obtain ⟨rfl, rfl⟩ : characters.takeWhile (· != ':') = name ∧ rest = value := by
          simpa using found
        have isColon : colon = ':' := by
          have stops := List.head?_dropWhile_not (· != ':') characters
          rw [dropped] at stops
          simpa using stops
        constructor
        · have whole := List.takeWhile_append_dropWhile (p := (· != ':')) (l := characters)
          rw [dropped, isColon] at whole
          exact whole.symm
        · intro inside
          have other := List.mem_takeWhile_imp inside
          simp at other
  · intro given
    obtain ⟨rfl, plain⟩ := given
    have before : ∀ character ∈ name, (character != ':') = true := by
      intro character inside
      rw [bne_iff_ne]
      intro same
      subst same
      exact plain inside
    rw [splitAtColon, List.dropWhile_append_of_pos before, List.takeWhile_append_of_pos before]
    simp

/-- A token has at most one name and one value. -/
theorem IsPair.unique {vocabulary : Vocabulary} {token name otherName value otherValue : String}
    (first : IsPair vocabulary token name value)
    (second : IsPair vocabulary token otherName otherValue) :
    name = otherName ∧ value = otherValue := by
  have split : ∀ {name value : String}, IsPair vocabulary token name value →
      splitAtColon token.toList = some (name.toList, value.toList) := by
    intro name value pair
    rw [splitAtColon_eq_some_iff, pair.text]
    exact ⟨by simp, pair.firstColon⟩
  have same := (split first).symm.trans (split second)
  simpa [String.toList_inj] using same

/-- The reader of pairs finds exactly the recognized pairs. -/
theorem pair?_eq_some_iff {vocabulary : Vocabulary} {token : Token} {name value : String} :
    token.pair? vocabulary = some (name, value) ↔
      ∃ raw, IsPair vocabulary token.text name raw ∧ value = unquoted raw := by
  constructor
  · intro found
    rw [Token.pair?] at found
    split at found
    · cases found
    · next before after split =>
        obtain ⟨text, plain⟩ := splitAtColon_eq_some_iff.mp split
        split at found
        · next accepted =>
            rw [Bool.and_eq_true, Bool.not_eq_true', List.isEmpty_eq_false_iff] at accepted
            obtain ⟨rfl, rfl⟩ : String.ofList before = name ∧
                String.ofList (unquote after) = value := by simpa using found
            refine ⟨String.ofList after, ⟨?_, ?_, accepted.2, ?_⟩, ?_⟩
            · rw [Token.text, text]
              simp [← String.toList_inj]
            · simpa using plain
            · simpa [← String.toList_inj] using accepted.1
            · rw [unquoted, String.toList_ofList]
        · cases found
  · intro given
    obtain ⟨raw, pair, rfl⟩ := given
    have split : splitAtColon token.characters = some (name.toList, raw.toList) := by
      rw [splitAtColon_eq_some_iff]
      have text := congrArg String.toList pair.text
      rw [Token.text, String.toList_ofList] at text
      rw [text]
      exact ⟨by simp, pair.firstColon⟩
    have filled : raw.toList.isEmpty = false := by
      rw [List.isEmpty_eq_false_iff]
      intro empty
      exact pair.filled (String.toList_inj.mp empty)
    simp [Token.pair?, split, filled, pair.recognized, unquoted]

theorem pair?_eq_none_iff {vocabulary : Vocabulary} {token : Token} :
    token.pair? vocabulary = none ↔ ∀ name value, ¬ IsPair vocabulary token.text name value := by
  constructor
  · intro missing name value pair
    have found := pair?_eq_some_iff.mpr ⟨value, pair, rfl⟩
    rw [missing] at found
    cases found
  · intro noPair
    cases found : token.pair? vocabulary with
    | none => rfl
    | some both =>
        obtain ⟨raw, pair, -⟩ := pair?_eq_some_iff.mp found
        exact absurd pair (noPair both.1 raw)

/-- This is a text that has the form of a recognized pair. -/
def HasPair (vocabulary : Vocabulary) (text : String) : Prop :=
  ∃ name value, IsPair vocabulary text name value

/-- The piece of a token is a pair exactly when the token is one. -/
theorem Piece.ofToken_cases (vocabulary : Vocabulary) (token : Token) :
    (¬ HasPair vocabulary token.text ∧
        Piece.ofToken vocabulary token = .text token.text token.span) ∨
      ∃ name raw, IsPair vocabulary token.text name raw ∧
        Piece.ofToken vocabulary token = .pair name (unquoted raw) token.span := by
  rw [Piece.ofToken]
  cases found : token.pair? vocabulary with
  | none =>
      refine Or.inl ⟨?_, rfl⟩
      intro given
      obtain ⟨name, value, pair⟩ := given
      exact pair?_eq_none_iff.mp found name value pair
  | some both =>
      obtain ⟨name, value⟩ := both
      obtain ⟨raw, pair, rfl⟩ := pair?_eq_some_iff.mp found
      exact Or.inr ⟨name, raw, pair, rfl⟩

theorem Piece.ofToken_span (vocabulary : Vocabulary) (token : Token) :
    (Piece.ofToken vocabulary token).span = token.span := by
  rcases Piece.ofToken_cases vocabulary token with ⟨-, piece⟩ | ⟨name, raw, -, piece⟩
  · rw [piece, Piece.span]
  · rw [piece, Piece.span]

theorem Piece.ofToken_isPair_iff {vocabulary : Vocabulary} {token : Token} :
    (Piece.ofToken vocabulary token).isPair = true ↔ HasPair vocabulary token.text := by
  rcases Piece.ofToken_cases vocabulary token with ⟨noPair, piece⟩ | ⟨name, raw, pair, piece⟩
  · simp [piece, Piece.isPair, noPair]
  · simp only [piece, Piece.isPair, true_iff]
    exact ⟨name, raw, pair⟩

instance (vocabulary : Vocabulary) (text : String) : Decidable (HasPair vocabulary text) :=
  decidable_of_iff ((Piece.ofToken vocabulary ⟨text.toList, 0⟩).isPair = true) (by
    rw [Piece.ofToken_isPair_iff, Token.text, String.ofList_toList])

end AssetSearch.Query

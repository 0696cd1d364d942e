/-
This file shows that a field can be searched by its keyword whenever its name gives it one: the
keyword and a value with a colon between them are one token, and this token is a pair. A name gives
no keyword exactly when it has neither letters nor digits, and then the catalog rejects it.
-/

import AssetSearch.Catalog.Store
import AssetSearch.Proofs.Catalog.NameWords
import AssetSearch.Proofs.Query.QuotedValues

namespace AssetSearch.Query

open AssetSearch.Text

/-- A value of this kind can be typed without quotes. -/
structure IsBareValue (value : String) : Prop where
  filled : value ≠ ""
  noQuote : '"' ∉ value.toList
  noBlank : ∀ character ∈ value.toList, isBlank character = false

/-- This is a token that gives the value without quotes. -/
def barePair (name value : String) : String :=
  name ++ ":" ++ value

section

variable {vocabulary : Vocabulary} {name value : String}

theorem barePair_toList (name value : String) :
    (barePair name value).toList = name.toList ++ ':' :: value.toList := by
  simp [barePair]

/-- No character of the name or of the value ends the token. -/
theorem barePair_isWord (plain : IsPlainName name) (bare : IsBareValue value) :
    IsWord (barePair name value).toList := by
  have noQuote : '"' ∉ (barePair name value).toList := by
    simp [barePair_toList, plain.noQuote, bare.noQuote]
  have noBlank : ∀ character ∈ (barePair name value).toList, isBlank character = false := by
    intro character inside
    rw [barePair_toList, List.mem_append, List.mem_cons] at inside
    rcases inside with inName | rfl | inValue
    · exact plain.noBlank character inName
    · rfl
    · exact bare.noBlank character inValue
  refine ⟨?_, ?_, ?_, ?_⟩
  · intro position
    have whole : tokensFrom position false ((barePair name value).toList ++ []) = _ :=
      tokensFrom_piece position noQuote (Or.inr noBlank) []
    rwa [List.append_nil, tokensFrom_nil, List.append_nil] at whole
  · simp [barePair_toList]
  · intro character first
    exact noBlank character (List.mem_of_head? first)
  · intro character last
    exact noBlank character (List.mem_of_getLast? last)

theorem barePair_isPair (recognized : vocabulary.contains name = true) (plain : IsPlainName name)
    (bare : IsBareValue value) : IsPair vocabulary (barePair name value) name value where
  text := rfl
  firstColon := plain.noColon
  recognized := recognized
  filled := bare.filled

theorem unquoted_bare (noQuote : '"' ∉ value.toList) : unquoted value = value :=
  unquoted_ofNoQuote fun first => noQuote (List.mem_of_head? first)

/-- The query is read as one pair, which begins and ends with it. -/
theorem Reading.ofQuery_barePair (recognized : vocabulary.contains name = true)
    (plain : IsPlainName name) (bare : IsBareValue value) :
    Reading.ofQuery vocabulary (barePair name value) =
      .pieces [.pair name value ⟨0, (barePair name value).utf8ByteSize⟩] := by
  have single := (barePair_isWord plain bare).tokens_eq
  have found :
      (⟨(barePair name value).toList, 0⟩ : Token).pair? vocabulary = some (name, value) := by
    rw [pair?_eq_some_iff]
    refine ⟨value, ?_, (unquoted_bare bare.noQuote).symm⟩
    rw [Token.text, String.ofList_toList]
    exact barePair_isPair recognized plain bare
  have piece : Piece.ofToken vocabulary ⟨(barePair name value).toList, 0⟩ =
      .pair name value ⟨0, (barePair name value).utf8ByteSize⟩ := by
    rw [Piece.ofToken, found, Token.span, byteLength_toList, Nat.zero_add]
  rw [Reading.ofQuery, single, List.map_singleton, piece]
  rfl

end

end AssetSearch.Query

namespace AssetSearch.Catalog

open AssetSearch.Query
open AssetSearch.Text
open AssetSearch.Time

theorem capitalized_isPlain {word : List Char} (plain : ∀ character ∈ word, IsPlain character) :
    ∀ image ∈ capitalized word, IsPlain image := by
  intro image inside
  have lower := lowerCase_isPlain plain
  rw [capitalized] at inside
  split at inside
  · cases inside
  · next first rest same =>
      rw [same] at lower
      rcases List.mem_append.mp inside with raised | kept
      · exact upperOf_isPlain (lower first List.mem_cons_self) image raised
      · exact lower image (List.mem_cons_of_mem first kept)

theorem camelCase_isPlain {words : List (List Char)}
    (plain : ∀ word ∈ words, ∀ character ∈ word, IsPlain character) :
    ∀ image ∈ camelCase words, IsPlain image := by
  intro image inside
  rcases mem_camelCase_iff.mp inside with ⟨word, first, lowered⟩ | ⟨word, later, raised⟩
  · exact lowerCase_isPlain (plain word (List.mem_of_head? first)) image lowered
  · exact capitalized_isPlain (plain word (List.mem_of_mem_tail later)) image raised

/-- Every keyword that comes from a name can be typed. -/
theorem slug_isPlainName (name : String) : IsPlainName (slug name) := by
  have plain : ∀ character ∈ (slug name).toList, IsPlain character := by
    rw [slug_toList]
    refine camelCase_isPlain fun word inside character member => ?_
    exact isPlain_ofAlphanumeric ((words_alphanumeric inside).2 character member)
  refine ⟨?_, ?_, fun character inside => (plain character inside).isBlank_eq⟩
  · exact fun inside => (plain _ inside).ne_colon rfl
  · exact fun inside => (plain _ inside).ne_quote rfl

theorem slug_eq_empty_iff {name : String} : slug name = "" ↔ HasNoWord name := by
  rw [← String.toList_inj, slug_toList, HasNoWord, ← words_eq_nil_iff]
  cases given : words name.toList with
  | nil => simp [camelCase]
  | cons first later =>
      have filled := (words_alphanumeric (given ▸ List.mem_cons_self)).1
      simp [camelCase, lowerCase_eq_nil_iff, filled]

namespace Store

theorem map_rows_ne_emptySlug {Content : Type} (store : Store) (change : List Row → Content)
    (name : String) : store.rows.map change ≠ .error (emptySlug name) := by
  rw [rows]
  split
  · exact nofun
  · exact nofun

theorem rename_eq_emptySlug_iff {store : Store} {id name : String} :
    store.rename id name = .error (emptySlug name) ↔ HasNoWord name := by
  rw [← slug_eq_empty_iff, rename]
  split
  · next empty => simpa using String.isEmpty_iff.mp empty
  · next filled =>
      rw [iff_false_left (map_rows_ne_emptySlug store _ name)]
      exact fun empty => filled (String.isEmpty_iff.mpr empty)

/-- The team is looked at first. -/
theorem upsert_eq_emptySlug_iff {store : Store} {field : CustomField} :
    store.upsert field = .error (emptySlug field.name) ↔
      trimmed field.teamId ≠ "" ∧ field.slug = "" := by
  rw [upsert]
  split
  · next blank =>
      rw [String.isEmpty_iff] at blank
      simp [blank, emptySlug]
  · next notBlank =>
      rw [String.isEmpty_iff] at notBlank
      split
      · next empty => simpa [notBlank] using String.isEmpty_iff.mp empty
      · next filled =>
          rw [iff_false_left (map_rows_ne_emptySlug store _ field.name)]
          exact fun given => filled (String.isEmpty_iff.mpr given.2)

end Store

/-- A keyword that comes from a name can be typed, and with every value that needs no quotes it
makes up a query with one pair. Only names without letters and digits give no keyword, and only
these are rejected for it by the catalog. -/
theorem slug_isSearchable (name : String) :
    IsPlainName (slug name) ∧
      (∀ (vocabulary : Vocabulary) (value : String),
        vocabulary.contains (slug name) = true → IsBareValue value →
        Reading.ofQuery vocabulary (barePair (slug name) value) =
          .pieces [.pair (slug name) value
            ⟨0, (barePair (slug name) value).utf8ByteSize⟩]) ∧
      (slug name = "" ↔ HasNoWord name) ∧
      ∀ (store : Store) (id teamId : String) (fieldType : FieldType) (createdAt : Instant),
        (store.rename id name = .error (Store.emptySlug name) ↔ HasNoWord name) ∧
          (store.upsert (.create id teamId name fieldType createdAt) =
              .error (Store.emptySlug name) ↔
            trimmed teamId ≠ "" ∧ HasNoWord name) := by
  refine ⟨slug_isPlainName name, ?_, slug_eq_empty_iff, ?_⟩
  · intro vocabulary value recognized bare
    exact Reading.ofQuery_barePair recognized (slug_isPlainName name) bare
  · intro store id teamId fieldType createdAt
    refine ⟨Store.rename_eq_emptySlug_iff, ?_⟩
    rw [← slug_eq_empty_iff]
    exact Store.upsert_eq_emptySlug_iff

/-- The first letter of this name gives two characters, and the value has a colon. -/
theorem slug_isSearchable_dottedCapital :
    slug "İade (Größe)" = "i\u0307adeGröße" ∧
      (Vocabulary.ofSlugs ["i\u0307adeGröße"]).contains (slug "İade (Größe)") = true ∧
      IsBareValue "12:30" ∧
      Reading.ofQuery (.ofSlugs ["i\u0307adeGröße"]) (barePair (slug "İade (Größe)") "12:30") =
        .pieces [.pair (slug "İade (Größe)") "12:30"
          ⟨0, (barePair (slug "İade (Größe)") "12:30").utf8ByteSize⟩] := by
  have keyword : slug "İade (Größe)" = "i\u0307adeGröße" := by decide +kernel
  have recognized :
      (Vocabulary.ofSlugs ["i\u0307adeGröße"]).contains (slug "İade (Größe)") = true := by
    rw [keyword]
    decide +kernel
  have noBlank : ∀ character ∈ "12:30".toList, isBlank character = false := by
    simpa using show ("12:30".toList.all (!isBlank ·)) = true by decide
  have bare : IsBareValue "12:30" := ⟨by decide, by decide, noBlank⟩
  exact ⟨keyword, recognized, bare, (slug_isSearchable _).2.1 _ _ recognized bare⟩

end AssetSearch.Catalog

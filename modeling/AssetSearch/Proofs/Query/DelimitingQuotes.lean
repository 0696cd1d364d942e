/-
This file shows which quotes a value loses when it is taken out of its pair. A value that is quoted
as a whole, or not at all, loses exactly the quotes that delimit it. A value that goes on behind its
first quoted part loses the quote in front as well, although that one does not delimit it.
-/

import AssetSearch.Proofs.Query.Grammar
import AssetSearch.Proofs.Query.QuotedValues
import Mathlib.Data.List.Basic

namespace AssetSearch.Query

/-- The quote in front is closed, and the value goes on behind the quoted part. -/
structure Continues (value quoted rest : String) : Prop where
  text : value = "\"" ++ quoted ++ "\"" ++ rest
  noQuote : '"' ∉ quoted.toList
  more : rest ≠ ""

/-- The second text is the first one without the quotes that delimit it. These are the quote in
front and the one that closes it, if it is the last character, or the quote in front alone, if
nothing closes it. -/
inductive LosesDelimiters : String → String → Prop
  | closed {quoted : String} (noQuote : '"' ∉ quoted.toList) :
      LosesDelimiters ("\"" ++ quoted ++ "\"") quoted
  | unclosed {quoted : String} (noQuote : '"' ∉ quoted.toList) :
      LosesDelimiters ("\"" ++ quoted) quoted
  | bare {value : String} (noQuote : value.toList.head? ≠ some '"') : LosesDelimiters value value
  | continued {value quoted rest : String} (continues : Continues value quoted rest) :
      LosesDelimiters value value

/-- A value begins with something else than a quote, or with a quote that is never closed, or with
one that is closed somewhere. -/
theorem value_cases (value : String) :
    value.toList.head? ≠ some '"' ∨
      (∃ quoted : String, value = "\"" ++ quoted ∧ '"' ∉ quoted.toList) ∨
      ∃ quoted rest : String, value = "\"" ++ quoted ++ "\"" ++ rest ∧ '"' ∉ quoted.toList := by
  by_cases front : value.toList.head? = some '"'
  · obtain ⟨inner, text⟩ := List.head?_eq_some_iff.mp front
    by_cases closed : '"' ∈ inner
    · obtain ⟨quoted, rest, rfl, noQuote⟩ := List.eq_append_cons_of_mem closed
      refine Or.inr (Or.inr ⟨.ofList quoted, .ofList rest, ?_, by simpa using noQuote⟩)
      rw [← String.toList_inj, text]
      simp
    · refine Or.inr (Or.inl ⟨.ofList inner, ?_, by simpa using closed⟩)
      rw [← String.toList_inj, text]
      simp
  · exact Or.inl front

/-- A quote at the end of the text is left out. -/
def withoutLastQuote (text : String) : String :=
  if text.toList.getLast? = some '"' then String.ofList text.toList.dropLast else text

section

variable {value quoted rest other : String}

theorem unquoted_unclosed (noQuote : '"' ∉ quoted.toList) : unquoted ("\"" ++ quoted) = quoted :=
  unquoted_front fun last => noQuote (List.mem_of_getLast? last)

/-- The quote that closes the first part stays in the value, the one in front does not. -/
theorem Continues.unquoted_eq (continues : Continues value quoted rest) :
    unquoted value = quoted ++ "\"" ++ withoutLastQuote rest := by
  have text : value.toList = '"' :: (quoted.toList ++ '"' :: rest.toList) := by
    simp [continues.text]
  have filled : rest.toList ≠ [] := fun empty => continues.more (String.toList_inj.mp empty)
  have last : (quoted.toList ++ '"' :: rest.toList).getLast? = rest.toList.getLast? := by
    rw [List.getLast?_append_of_ne_nil _ (List.cons_ne_nil _ _),
      List.getLast?_cons_of_ne_nil filled]
  rw [unquoted, text, unquote, last, withoutLastQuote, ← String.toList_inj]
  split
  · simp [List.dropLast_append_of_ne_nil, List.dropLast_cons_of_ne_nil filled]
  · simp

theorem Continues.unquoted_ne (continues : Continues value quoted rest) :
    unquoted value ≠ value := by
  have shorter : (withoutLastQuote rest).length ≤ rest.length := by
    rw [withoutLastQuote]
    split
    · simp [← String.length_toList]
    · exact Nat.le_refl _
  intro same
  have lengths := congrArg String.length (continues.unquoted_eq.symm.trans same)
  simp only [continues.text, String.length_append] at lengths
  have one : "\"".length = 1 := rfl
  omega

/-- A text up to its first quote. -/
theorem takeWhile_beforeQuote {characters : List Char} (noQuote : '"' ∉ characters)
    (later : List Char) :
    (characters ++ '"' :: later).takeWhile (· != '"') = characters := by
  have before : ∀ character ∈ characters, (character != '"') = true := by
    intro character inside
    rw [bne_iff_ne]
    rintro rfl
    exact noQuote inside
  rw [List.takeWhile_append_of_pos before, List.takeWhile_cons_of_neg (by simp), List.append_nil]

/-- The first quoted part of a value ends at one place only. -/
theorem quoted_unique {otherRest : String} (noQuote : '"' ∉ quoted.toList)
    (alsoNoQuote : '"' ∉ other.toList)
    (same : "\"" ++ quoted ++ "\"" ++ rest = "\"" ++ other ++ "\"" ++ otherRest) :
    quoted = other ∧ rest = otherRest := by
  have characters := congrArg String.toList same
  simp only [String.toList_append, List.append_assoc] at characters
  have inner : quoted.toList ++ '"' :: rest.toList = other.toList ++ '"' :: otherRest.toList :=
    List.append_cancel_left characters
  have first := congrArg (List.takeWhile (· != '"')) inner
  rw [takeWhile_beforeQuote noQuote, takeWhile_beforeQuote alsoNoQuote] at first
  rw [first] at inner
  exact ⟨String.toList_inj.mp first,
    String.toList_inj.mp (List.cons.inj (List.append_cancel_left inner)).2⟩

namespace LosesDelimiters

/-- A value that goes on behind its first quoted part is meant to be kept. -/
theorem eq_self (continues : Continues value quoted rest) (loses : LosesDelimiters value other) :
    other = value := by
  obtain ⟨text, noQuote, more⟩ := continues
  cases loses with
  | closed alsoNoQuote =>
      have whole : "\"" ++ other ++ "\"" ++ "" = "\"" ++ quoted ++ "\"" ++ rest := by
        rw [String.append_empty, text]
      exact absurd (quoted_unique alsoNoQuote noQuote whole).2.symm more
  | unclosed alsoNoQuote =>
      have characters := congrArg String.toList text
      simp only [String.toList_append, List.append_assoc] at characters
      have inner : other.toList = quoted.toList ++ '"' :: rest.toList :=
        List.append_cancel_left characters
      exact absurd (by simp [inner]) alsoNoQuote
  | bare => rfl
  | continued => rfl

/-- Every value loses its delimiters unless it goes on behind its first quoted part. -/
theorem unquoted_or_continues (value : String) :
    LosesDelimiters value (unquoted value) ∨ ∃ quoted rest, Continues value quoted rest := by
  rcases value_cases value with noQuote | ⟨quoted, rfl, noQuote⟩ | ⟨quoted, rest, rfl, noQuote⟩
  · left
    rw [unquoted_ofNoQuote noQuote]
    exact bare noQuote
  · left
    rw [unquoted_unclosed noQuote]
    exact unclosed noQuote
  · by_cases more : rest = ""
    · left
      rw [more, String.append_empty, unquoted_quoted]
      exact closed noQuote
    · exact Or.inr ⟨quoted, rest, rfl, noQuote, more⟩

theorem eq_unquoted (whole : ¬ ∃ quoted rest, Continues value quoted rest)
    (loses : LosesDelimiters value other) : other = unquoted value := by
  cases loses with
  | closed noQuote => exact (unquoted_quoted other).symm
  | unclosed noQuote => exact (unquoted_unclosed noQuote).symm
  | bare noQuote => exact (unquoted_ofNoQuote noQuote).symm
  | continued continues => exact absurd ⟨_, _, continues⟩ whole

theorem existsUnique (value : String) : ∃! other, LosesDelimiters value other := by
  rcases em (∃ quoted rest, Continues value quoted rest) with ⟨quoted, rest, continues⟩ | whole
  · exact ⟨value, continued continues, fun _ loses => loses.eq_self continues⟩
  · exact ⟨unquoted value, (unquoted_or_continues value).resolve_right whole,
      fun _ loses => loses.eq_unquoted whole⟩

theorem unquoted_iff :
    LosesDelimiters value (unquoted value) ↔ ¬ ∃ quoted rest, Continues value quoted rest := by
  constructor
  · intro loses given
    obtain ⟨quoted, rest, continues⟩ := given
    exact continues.unquoted_ne (loses.eq_self continues)
  · intro whole
    exact (unquoted_or_continues value).resolve_right whole

end LosesDelimiters

/-- A recognized pair is a piece of the query it stands in, with the value that the unquoting
leaves. -/
theorem Reading.exists_pair {vocabulary : Vocabulary} {query name raw : String} {span : Span}
    (inside : span ∈ tokenSpans query) (pair : IsPair vocabulary (span.slice query) name raw) :
    ∃ pieces, ofQuery vocabulary query = .pieces pieces ∧
      .pair name (unquoted raw) span ∈ pieces := by
  have described := reading_describes vocabulary query
  cases read : ofQuery vocabulary query with
  | plain whole =>
      rw [read] at described
      exact absurd ⟨name, raw, pair⟩ (described.2 span inside)
  | pieces pieces =>
      rw [read] at described
      obtain ⟨spans, each, -⟩ := described
      rw [← spans] at inside
      obtain ⟨piece, member, rfl⟩ := List.mem_map.mp inside
      refine ⟨pieces, rfl, ?_⟩
      have told := each piece member
      cases piece with
      | text content span => exact absurd ⟨name, raw, pair⟩ told.2
      | pair keyword value span =>
          obtain ⟨otherRaw, otherPair, strips⟩ := told
          obtain rfl := stripsQuotes_iff.mp strips
          obtain ⟨rfl, rfl⟩ := pair.unique otherPair
          exact member

/-- The value of a pair is the raw value without the quotes that delimit it, unless the raw value
goes on behind its first quoted part. Then the quote in front is lost, and a quote at the end with
it, and the quote that closes the first part is kept. -/
theorem pairValue_losesDelimiters_iff {vocabulary : Vocabulary} {query name raw : String}
    {span : Span} (inside : span ∈ tokenSpans query)
    (pair : IsPair vocabulary (span.slice query) name raw) :
    (∃ pieces, Reading.ofQuery vocabulary query = .pieces pieces ∧
        .pair name (unquoted raw) span ∈ pieces) ∧
      (∃! value, LosesDelimiters raw value) ∧
      (LosesDelimiters raw (unquoted raw) ↔ ¬ ∃ quoted rest, Continues raw quoted rest) ∧
      ∀ quoted rest, Continues raw quoted rest →
        unquoted raw = quoted ++ "\"" ++ withoutLastQuote rest := by
  refine ⟨Reading.exists_pair inside pair, LosesDelimiters.existsUnique raw,
    LosesDelimiters.unquoted_iff, ?_⟩
  intro quoted rest continues
  exact continues.unquoted_eq

end

/-- Of two quoted parts the first quote and the last one are lost, as if they belonged together. -/
theorem pairValue_losesDelimiters_twoParts :
    (⟨4, 16⟩ : Span) ∈ tokenSpans "say name:\"a\",\"b\"" ∧
      IsPair (.ofSlugs ["name"]) ((⟨4, 16⟩ : Span).slice "say name:\"a\",\"b\"") "name"
        "\"a\",\"b\"" ∧
      Continues "\"a\",\"b\"" "a" ",\"b\"" ∧
      unquoted "\"a\",\"b\"" = "a\",\"b" ∧
      ¬ LosesDelimiters "\"a\",\"b\"" "a\",\"b" := by
  have inside : (⟨4, 16⟩ : Span) ∈ tokenSpans "say name:\"a\",\"b\"" := by decide +kernel
  have pair : IsPair (.ofSlugs ["name"]) ((⟨4, 16⟩ : Span).slice "say name:\"a\",\"b\"") "name"
      "\"a\",\"b\"" :=
    ⟨by decide +kernel, by decide +kernel, by decide +kernel, by decide +kernel⟩
  have continues : Continues "\"a\",\"b\"" "a" ",\"b\"" :=
    ⟨by decide +kernel, by decide +kernel, by decide +kernel⟩
  obtain ⟨-, -, whole, lost⟩ := pairValue_losesDelimiters_iff inside pair
  have value : unquoted "\"a\",\"b\"" = "a\",\"b" := by
    rw [lost _ _ continues]
    decide +kernel
  refine ⟨inside, pair, continues, value, ?_⟩
  rw [← value]
  exact fun loses => whole.mp loses ⟨_, _, continues⟩

/-- Nothing of this value should be lost, since its quoted part ends before the value does, but the
quote in front of it is. -/
theorem continuedValue_losesQuote :
    Reading.ofQuery (.ofSlugs ["name"]) "name:\"blue\"ish" =
        .pieces [.pair "name" "blue\"ish" ⟨0, 14⟩] ∧
      LosesDelimiters "\"blue\"ish" "\"blue\"ish" ∧
      ¬ LosesDelimiters "\"blue\"ish" "blue\"ish" := by
  have continues : Continues "\"blue\"ish" "blue" "ish" :=
    ⟨by decide +kernel, by decide +kernel, by decide +kernel⟩
  refine ⟨by decide +kernel, .continued continues, ?_⟩
  intro loses
  exact absurd (loses.eq_self continues) (by decide +kernel)

end AssetSearch.Query

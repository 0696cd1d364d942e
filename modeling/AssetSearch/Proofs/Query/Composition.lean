/-
This file shows that queries can be put together. A query that continues another one, after blanks
outside quotes, is compiled to what the two are compiled to: their free texts and filters are
joined, and the later of their kinds is selected.
-/

import AssetSearch.Proofs.Query.FreeText

namespace AssetSearch.Query

open AssetSearch.Text

/-- The texts of the tokens on both sides of the blanks are those of the two sides alone. -/
theorem tokenTexts_append {first blanks : String} (closed : first.toList.count '"' % 2 = 0)
    (nonempty : blanks ≠ "") (blank : AllBlank blanks.toList) (second : String) :
    tokenTexts (first ++ blanks ++ second) = tokenTexts first ++ tokenTexts second := by
  have someBlank : blanks.toList ≠ [] := by
    rw [ne_eq, String.toList_eq_nil_iff]
    exact nonempty
  rw [tokenTexts, String.append_assoc, String.toList_append, String.toList_append,
    tokens_append (quotedAfter_false_iff.mpr closed) someBlank blank, List.map_append,
    map_text_shift]
  rfl

/-- Tokens that stand side by side are sorted side by side. -/
theorem Sorts.append {vocabulary : Vocabulary}
    {tokens texts kinds otherTokens otherTexts otherKinds : List String}
    {fields otherFields : List (String × String)}
    (sorts : Sorts vocabulary tokens texts fields kinds)
    (other : Sorts vocabulary otherTokens otherTexts otherFields otherKinds) :
    Sorts vocabulary (tokens ++ otherTokens) (texts ++ otherTexts) (fields ++ otherFields)
      (kinds ++ otherKinds) := by
  induction sorts with
  | nil => exact other
  | text noPair _ inductionHypothesis => exact .text noPair inductionHypothesis
  | field pair isField _ inductionHypothesis => exact .field pair isField inductionHypothesis
  | kind pair _ inductionHypothesis => exact .kind pair inductionHypothesis

/-- One of the tokens is a pair with the kind keyword, whether its value names a kind or not. -/
def HasKindPair (vocabulary : Vocabulary) (tokens : List String) : Prop :=
  ∃ token ∈ tokens, ∃ value, IsPair vocabulary token kindKeyword value

theorem hasKindPair_cons {vocabulary : Vocabulary} {token : String} {rest : List String} :
    HasKindPair vocabulary (token :: rest) ↔
      (∃ value, IsPair vocabulary token kindKeyword value) ∨ HasKindPair vocabulary rest := by
  simp [HasKindPair]

theorem Sorts.hasKindPair_iff {vocabulary : Vocabulary} {tokens texts kinds : List String}
    {fields : List (String × String)} (sorts : Sorts vocabulary tokens texts fields kinds) :
    HasKindPair vocabulary tokens ↔ kinds ≠ [] := by
  induction sorts with
  | nil => simp [HasKindPair]
  | text noPair _ inductionHypothesis =>
      rw [hasKindPair_cons, inductionHypothesis, or_iff_right]
      intro given
      obtain ⟨value, pair⟩ := given
      exact noPair ⟨kindKeyword, value, pair⟩
  | field pair isField _ inductionHypothesis =>
      rw [hasKindPair_cons, inductionHypothesis, or_iff_right]
      intro given
      obtain ⟨value, kindPair⟩ := given
      exact isField (pair.unique kindPair).1
  | kind pair _ _ =>
      rw [hasKindPair_cons]
      exact iff_of_true (Or.inl ⟨_, pair⟩) (List.cons_ne_nil _ _)

/-- Both filters must hold if there are two. -/
def bothFilters : Option String → Option String → Option String
  | none, second => second
  | first, none => first
  | some first, some second => some (first ++ " AND " ++ second)

theorem joinNonempty_append (first second : List String) :
    joinNonempty conjunction (first ++ second) =
      bothFilters (joinNonempty conjunction first) (joinNonempty conjunction second) := by
  by_cases noFirst : first = []
  · subst noFirst
    rfl
  by_cases noSecond : second = []
  · subst noSecond
    rw [List.append_nil]
    cases first with
    | nil => rfl
    | cons term rest => rfl
  · have some : ∀ {terms : List String}, terms ≠ [] →
        joinNonempty conjunction terms = .some (conjunction terms) :=
      fun given => joinNonempty_eq_some_iff.mpr ⟨given, rfl⟩
    rw [some noFirst, some noSecond, some (List.append_ne_nil_of_left_ne_nil noFirst second),
      conjunction, String.intercalate_append_of_ne_nil noFirst noSecond]
    rfl

/-- These are the tokens of the free text of a compiled query. -/
def CompiledQuery.freeTokens (compiled : CompiledQuery) : List String :=
  tokenTexts (compiled.text.getD "")

/-- A query is compiled in two parts if blanks outside quotes separate them. Free text and filter
have what both parts have, and the first part selects the kind only if the second one has no pair
with the kind keyword. -/
theorem ofQuery_append (vocabulary : Vocabulary) {first blanks : String}
    (closed : first.toList.count '"' % 2 = 0) (nonempty : blanks ≠ "")
    (blank : AllBlank blanks.toList) (second : String) :
    let whole := CompiledQuery.ofQuery vocabulary (first ++ blanks ++ second)
    let before := CompiledQuery.ofQuery vocabulary first
    let after := CompiledQuery.ofQuery vocabulary second
    whole.freeTokens = before.freeTokens ++ after.freeTokens ∧
      whole.filter = bothFilters before.filter after.filter ∧
        (HasKindPair vocabulary (tokenTexts second) → whole.kind = after.kind) ∧
          (¬ HasKindPair vocabulary (tokenTexts second) → whole.kind = before.kind) := by
  intro whole before after
  obtain ⟨texts, fields, kinds, sortsBefore, isBefore⟩ := exists_isCompiledFrom vocabulary first
  obtain ⟨otherTexts, otherFields, otherKinds, sortsAfter, isAfter⟩ :=
    exists_isCompiledFrom vocabulary second
  obtain ⟨allTexts, allFields, allKinds, sorts, isWhole⟩ :=
    exists_isCompiledFrom vocabulary (first ++ blanks ++ second)
  -- The tokens alone decide where they go, so that the whole has nothing but the two parts.
  rw [tokenTexts_append closed nonempty blank] at sorts
  obtain ⟨rfl, rfl, rfl⟩ := (sortsBefore.append sortsAfter).unique sorts
  refine ⟨?_, ?_, ?_, ?_⟩
  · rw [CompiledQuery.freeTokens, CompiledQuery.freeTokens, CompiledQuery.freeTokens,
      isWhole.text, isBefore.text, isAfter.text]
  · rw [isWhole.filter, isBefore.filter, isAfter.filter, List.map_append,
      joinNonempty_append]
  · intro hasKind
    have someKind := sortsAfter.hasKindPair_iff.mp hasKind
    rw [isWhole.kind, isAfter.kind, List.getLast?_append_of_ne_nil _ someKind]
  · intro noKind
    have none : otherKinds = [] :=
      Classical.byContradiction fun given => noKind (sortsAfter.hasKindPair_iff.mpr given)
    rw [isWhole.kind, isBefore.kind, none, List.append_nil]

/-- The second part asks for a kind that does not exist, so that the kind of the first part is lost,
and it ends in a quote that is never closed. -/
theorem ofQuery_append_openQuote :
    "is:tag \"red  chair\" size:>3".toList.count '"' % 2 = 0 ∧ " \t" ≠ "" ∧
    AllBlank " \t".toList ∧ HasKindPair (.ofSlugs ["size"]) (tokenTexts "size:<9 is:chair \"a  ") ∧
    let whole := CompiledQuery.ofQuery (.ofSlugs ["size"])
      ("is:tag \"red  chair\" size:>3" ++ " \t" ++ "size:<9 is:chair \"a  ")
    whole.freeTokens = ["\"red  chair\"", "\"a"] ∧
      whole.filter = some "size > 3 AND size < 9" ∧ whole.kind = none := by
  have closed : "is:tag \"red  chair\" size:>3".toList.count '"' % 2 = 0 := by decide
  have nonempty : " \t" ≠ "" := by decide
  have blank : AllBlank " \t".toList :=
    allBlank_cons.mpr ⟨rfl, allBlank_cons.mpr ⟨rfl, allBlank_nil⟩⟩
  have hasKind : HasKindPair (.ofSlugs ["size"]) (tokenTexts "size:<9 is:chair \"a  ") :=
    ⟨"is:chair", by decide, "chair", rfl, by decide, by decide, by decide⟩
  obtain ⟨texts, filter, later, -⟩ :=
    ofQuery_append (.ofSlugs ["size"]) closed nonempty blank "size:<9 is:chair \"a  "
  refine ⟨closed, nonempty, blank, hasKind, ?_, ?_, ?_⟩
  · rw [texts]
    decide
  · rw [filter]
    decide +kernel
  · rw [later hasKind]
    decide

end AssetSearch.Query

/-
This file shows that a compiled query keeps every token. Its free text has the tokens that are not
recognized pairs, its filter has a term for each pair with a field, and its kind is that of the last
pair with the kind keyword. Free text that is compiled again stays as it is.
-/

import AssetSearch.Proofs.Query.KindSpellings
import AssetSearch.Proofs.Query.PairTerms
import AssetSearch.Proofs.Query.TokenTexts
import AssetSearch.Query.Compiled
import Mathlib.Data.List.Forall2

namespace AssetSearch.Query

open AssetSearch.Text

/-- Every token goes to one of three places, and the order of each place is that of the tokens. -/
inductive Sorts (vocabulary : Vocabulary) :
    (tokens texts : List String) → (fields : List (String × String)) → (kinds : List String) → Prop
  | nil : Sorts vocabulary [] [] [] []
  | text {token : String} {tokens texts kinds : List String} {fields : List (String × String)} :
      ¬ HasPair vocabulary token → Sorts vocabulary tokens texts fields kinds →
        Sorts vocabulary (token :: tokens) (token :: texts) fields kinds
  | field {token name value : String} {tokens texts kinds : List String}
      {fields : List (String × String)} :
      IsPair vocabulary token name value → name ≠ kindKeyword →
        Sorts vocabulary tokens texts fields kinds →
          Sorts vocabulary (token :: tokens) texts ((name, value) :: fields) kinds
  | kind {token value : String} {tokens texts kinds : List String}
      {fields : List (String × String)} :
      IsPair vocabulary token kindKeyword value → Sorts vocabulary tokens texts fields kinds →
        Sorts vocabulary (token :: tokens) texts fields (value :: kinds)

theorem Sorts.texts_sublist {vocabulary : Vocabulary} {tokens texts kinds : List String}
    {fields : List (String × String)} (sorts : Sorts vocabulary tokens texts fields kinds) :
    texts.Sublist tokens := by
  induction sorts with
  | nil => exact List.Sublist.slnil
  | text _ _ inductionHypothesis => exact inductionHypothesis.cons_cons _
  | field _ _ _ inductionHypothesis => exact inductionHypothesis.cons _
  | kind _ _ inductionHypothesis => exact inductionHypothesis.cons _

theorem Sorts.texts_noPair {vocabulary : Vocabulary} {tokens texts kinds : List String}
    {fields : List (String × String)} (sorts : Sorts vocabulary tokens texts fields kinds) :
    ∀ text ∈ texts, ¬ HasPair vocabulary text := by
  induction sorts with
  | nil => simp
  | text noPair _ inductionHypothesis =>
      intro text inside
      rcases List.mem_cons.mp inside with same | later
      · rw [same]
        exact noPair
      · exact inductionHypothesis text later
  | field _ _ _ inductionHypothesis => exact inductionHypothesis
  | kind _ _ inductionHypothesis => exact inductionHypothesis

/-- There is only one way to sort the tokens. -/
theorem Sorts.unique {vocabulary : Vocabulary}
    {tokens texts kinds otherTexts otherKinds : List String}
    {fields otherFields : List (String × String)}
    (sorts : Sorts vocabulary tokens texts fields kinds)
    (other : Sorts vocabulary tokens otherTexts otherFields otherKinds) :
    otherTexts = texts ∧ otherFields = fields ∧ otherKinds = kinds := by
  induction sorts generalizing otherTexts otherFields otherKinds with
  | nil =>
      cases other
      exact ⟨rfl, rfl, rfl⟩
  | text noPair _ inductionHypothesis =>
      cases other with
      | text _ later =>
          obtain ⟨rfl, rfl, rfl⟩ := inductionHypothesis later
          exact ⟨rfl, rfl, rfl⟩
      | field pair _ _ => exact absurd ⟨_, _, pair⟩ noPair
      | kind pair _ => exact absurd ⟨_, _, pair⟩ noPair
  | field pair isField _ inductionHypothesis =>
      cases other with
      | text noPair _ => exact absurd ⟨_, _, pair⟩ noPair
      | field otherPair _ later =>
          obtain ⟨rfl, rfl⟩ := pair.unique otherPair
          obtain ⟨rfl, rfl, rfl⟩ := inductionHypothesis later
          exact ⟨rfl, rfl, rfl⟩
      | kind otherPair _ => exact absurd (pair.unique otherPair).1 isField
  | kind pair _ inductionHypothesis =>
      cases other with
      | text noPair _ => exact absurd ⟨_, _, pair⟩ noPair
      | field otherPair isField _ => exact absurd (pair.unique otherPair).1.symm isField
      | kind otherPair later =>
          obtain ⟨-, rfl⟩ := pair.unique otherPair
          obtain ⟨rfl, rfl, rfl⟩ := inductionHypothesis later
          exact ⟨rfl, rfl, rfl⟩

/-- Without recognized pairs all tokens are free text. -/
theorem Sorts.ofNoPair {vocabulary : Vocabulary} {tokens : List String}
    (noPair : ∀ token ∈ tokens, ¬ HasPair vocabulary token) :
    Sorts vocabulary tokens tokens [] [] := by
  induction tokens with
  | nil => exact .nil
  | cons token rest inductionHypothesis =>
      exact .text (noPair token List.mem_cons_self)
        (inductionHypothesis fun other inside => noPair other (List.mem_cons_of_mem _ inside))

theorem Piece.term?_kind (value : String) (span : Span) :
    Piece.term? (.pair kindKeyword value span) = none := by
  rw [Piece.term?, if_pos rfl]

theorem Piece.kindValue?_kind (value : String) (span : Span) :
    Piece.kindValue? (.pair kindKeyword value span) = some value := by
  rw [Piece.kindValue?, if_pos rfl]

theorem Piece.term?_field {keyword : String} (isField : keyword ≠ kindKeyword) (value : String)
    (span : Span) : Piece.term? (.pair keyword value span) = some ⟨keyword, .ofValue value⟩ := by
  rw [Piece.term?, if_neg isField]

theorem Piece.kindValue?_field {keyword : String} (isField : keyword ≠ kindKeyword)
    (value : String) (span : Span) : Piece.kindValue? (.pair keyword value span) = none := by
  rw [Piece.kindValue?, if_neg isField]

/-- The pieces of a query sort its tokens. -/
theorem sorts_pieces (vocabulary : Vocabulary) (tokens : List Token) :
    ∃ fields kinds,
      Sorts vocabulary (tokens.map Token.text)
        (freeTexts (tokens.map (Piece.ofToken vocabulary))) fields kinds ∧
      filterTerms (tokens.map (Piece.ofToken vocabulary)) = fields.map fieldTerm ∧
      (tokens.map (Piece.ofToken vocabulary)).filterMap Piece.kindValue? =
        kinds.map unquoted := by
  induction tokens with
  | nil => exact ⟨[], [], .nil, rfl, rfl⟩
  | cons token rest inductionHypothesis =>
      obtain ⟨fields, kinds, sorts, terms, values⟩ := inductionHypothesis
      rw [List.map_cons, List.map_cons]
      rcases Piece.ofToken_cases vocabulary token with ⟨noPair, piece⟩ | ⟨name, raw, pair, piece⟩
      · rw [piece]
        exact ⟨fields, kinds, .text noPair sorts, terms, values⟩
      · rw [piece]
        by_cases isKind : name = kindKeyword
        · subst isKind
          refine ⟨fields, raw :: kinds, .kind pair sorts, ?_, ?_⟩
          · rw [filterTerms, List.filterMap_cons_none (Piece.term?_kind _ _)]
            exact terms
          · rw [List.filterMap_cons_some (Piece.kindValue?_kind _ _), values, List.map_cons]
        · refine ⟨(name, raw) :: fields, kinds, .field pair isKind sorts, ?_, ?_⟩
          · rw [filterTerms, List.filterMap_cons_some (Piece.term?_field isKind _ _),
              ← filterTerms, terms]
            rfl
          · rw [List.filterMap_cons_none (Piece.kindValue?_field isKind _ _)]
            exact values

theorem any_isPair_iff {vocabulary : Vocabulary} {query : String} :
    ((tokens query.toList).map (Piece.ofToken vocabulary)).any Piece.isPair = true ↔
      ∃ text ∈ tokenTexts query, HasPair vocabulary text := by
  rw [List.any_map, List.any_eq_true]
  constructor
  · intro given
    obtain ⟨token, inside, isPair⟩ := given
    exact ⟨token.text, List.mem_map_of_mem inside, Piece.ofToken_isPair_iff.mp isPair⟩
  · intro given
    obtain ⟨text, member, hasPair⟩ := given
    obtain ⟨token, inside, rfl⟩ := List.mem_map.mp member
    exact ⟨token, inside, Piece.ofToken_isPair_iff.mpr hasPair⟩

namespace CompiledQuery

/-- A query without recognized pairs is compiled as it stands. -/
theorem ofQuery_plain {vocabulary : Vocabulary} {query : String}
    (noPair : ∀ text ∈ tokenTexts query, ¬ HasPair vocabulary text) :
    ofQuery vocabulary query = ofPlain query := by
  have none : ¬ ((tokens query.toList).map (Piece.ofToken vocabulary)).any Piece.isPair = true := by
    rw [any_isPair_iff]
    intro given
    obtain ⟨text, inside, hasPair⟩ := given
    exact noPair text inside hasPair
  rw [ofQuery, Reading.ofQuery, if_neg none, ofReading]

theorem ofQuery_pieces {vocabulary : Vocabulary} {query : String}
    (hasPair : ∃ text ∈ tokenTexts query, HasPair vocabulary text) :
    ofQuery vocabulary query =
      ofPieces ((tokens query.toList).map (Piece.ofToken vocabulary)) := by
  rw [ofQuery, Reading.ofQuery, if_pos (any_isPair_iff.mpr hasPair), ofReading]

end CompiledQuery

theorem joinNonempty_eq_none_iff {join : List String → String} {texts : List String} :
    joinNonempty join texts = none ↔ texts = [] := by
  cases texts <;> simp [joinNonempty]

theorem joinNonempty_eq_some_iff {join : List String → String} {texts : List String}
    {joined : String} :
    joinNonempty join texts = some joined ↔ texts ≠ [] ∧ join texts = joined := by
  cases texts <;> simp [joinNonempty]

/-- A query is compiled from its tokens after they are sorted. -/
structure IsCompiledFrom (compiled : CompiledQuery) (texts : List String)
    (fields : List (String × String)) (kinds : List String) : Prop where
  text : tokenTexts (compiled.text.getD "") = texts
  filter : compiled.filter =
    joinNonempty conjunction (fields.map fun field => (fieldTerm field).text)
  kind : compiled.kind = kinds.getLast?.bind fun value => EntityKind.ofValue? (unquoted value)

theorem ofPlain_isCompiledFrom (query : String) :
    IsCompiledFrom (.ofPlain query) (tokenTexts query) [] [] where
  text := by
    have whole : (CompiledQuery.ofPlain query).text.getD "" = trimmed query := by
      rw [CompiledQuery.ofPlain]
      by_cases empty : (trimmed query).isEmpty = true
      · simp only [empty, if_true, Option.getD_none]
        exact (String.isEmpty_iff.mp empty).symm
      · simp only [empty]
        rfl
    rw [whole, tokenTexts_trimmed]
  filter := rfl
  kind := rfl

theorem Sorts.tokenTexts_join {vocabulary : Vocabulary} {query : String}
    {texts kinds : List String} {fields : List (String × String)}
    (sorts : Sorts vocabulary (tokenTexts query) texts fields kinds) :
    tokenTexts (String.intercalate " " texts) = texts := by
  have sublist := sorts.texts_sublist
  apply tokenTexts_intercalate
  · intro word inside
    exact tokenTexts_isWord (sublist.subset inside)
  · exact (tokenTexts_closedBefore query).sublist sublist

theorem ofPieces_isCompiledFrom (vocabulary : Vocabulary) (query : String) :
    ∃ texts fields kinds, Sorts vocabulary (tokenTexts query) texts fields kinds ∧
      IsCompiledFrom (.ofPieces ((tokens query.toList).map (Piece.ofToken vocabulary)))
        texts fields kinds := by
  obtain ⟨fields, kinds, sorts, terms, values⟩ := sorts_pieces vocabulary (tokens query.toList)
  refine ⟨_, fields, kinds, sorts, ?_, ?_, ?_⟩
  · have joined : ∀ texts, (joinNonempty (String.intercalate " ") texts).getD "" =
        String.intercalate " " texts := by
      intro texts
      cases texts <;> simp [joinNonempty]
    rw [CompiledQuery.ofPieces, joined]
    exact sorts.tokenTexts_join
  · rw [CompiledQuery.ofPieces, terms, List.map_map]
    rfl
  · rw [CompiledQuery.ofPieces, selectedKind, values, List.getLast?_map, Option.bind_map,
      Function.comp_def]

theorem exists_isCompiledFrom (vocabulary : Vocabulary) (query : String) :
    ∃ texts fields kinds, Sorts vocabulary (tokenTexts query) texts fields kinds ∧
      IsCompiledFrom (CompiledQuery.ofQuery vocabulary query) texts fields kinds := by
  by_cases hasPair : ∃ text ∈ tokenTexts query, HasPair vocabulary text
  · rw [CompiledQuery.ofQuery_pieces hasPair]
    exact ofPieces_isCompiledFrom vocabulary query
  · have noPair : ∀ text ∈ tokenTexts query, ¬ HasPair vocabulary text := by
      intro text inside isPair
      exact hasPair ⟨text, inside, isPair⟩
    rw [CompiledQuery.ofQuery_plain noPair]
    exact ⟨_, _, _, .ofNoPair noPair, ofPlain_isCompiledFrom query⟩

/-- The free text has the tokens that are no pairs, the filter has one term for each pair with a
field, and the last of the other pairs alone decides the kind. -/
structure KeepsTokens (vocabulary : Vocabulary) (query : String) (compiled : CompiledQuery)
    (texts : List String) (fields : List (String × String)) (kinds : List String) : Prop where
  sorts : Sorts vocabulary (tokenTexts query) texts fields kinds
  text : tokenTexts (compiled.text.getD "") = texts
  filter : ∀ filter, compiled.filter = some filter →
    ∃ terms, List.Forall₂ IsTermOf fields terms ∧ filter = String.intercalate " AND " terms
  filterNone : compiled.filter = none ↔ fields = []
  kind : ∀ kind, compiled.kind = some kind ↔
    ∃ raw value, kinds.getLast? = some raw ∧ StripsQuotes raw value ∧ kind.IsNamedBy value

theorem IsCompiledFrom.keepsTokens {vocabulary : Vocabulary} {query : String}
    {compiled : CompiledQuery} {texts kinds : List String} {fields : List (String × String)}
    (sorts : Sorts vocabulary (tokenTexts query) texts fields kinds)
    (isCompiled : IsCompiledFrom compiled texts fields kinds) :
    KeepsTokens vocabulary query compiled texts fields kinds where
  sorts := sorts
  text := isCompiled.text
  filter := by
    intro filter found
    rw [isCompiled.filter, joinNonempty_eq_some_iff] at found
    obtain ⟨-, rfl⟩ := found
    refine ⟨fields.map fun field => (fieldTerm field).text, ?_, rfl⟩
    rw [List.forall₂_map_right_iff, List.forall₂_same]
    exact fun field _ => isTermOf_text field
  filterNone := by
    rw [isCompiled.filter, joinNonempty_eq_none_iff, List.map_eq_nil_iff]
  kind := by
    intro kind
    simp only [isCompiled.kind, Option.bind_eq_some_iff, EntityKind.ofValue?_eq_some_iff,
      stripsQuotes_iff, exists_and_left, exists_eq_left]

/-- No token is lost, repeated or moved. The tokens alone decide which of them go where. -/
theorem ofQuery_keepsTokens (vocabulary : Vocabulary) (query : String) :
    ∃ texts fields kinds,
      KeepsTokens vocabulary query (CompiledQuery.ofQuery vocabulary query) texts fields kinds ∧
      ∀ otherTexts otherFields otherKinds,
        Sorts vocabulary (tokenTexts query) otherTexts otherFields otherKinds →
          otherTexts = texts ∧ otherFields = fields ∧ otherKinds = kinds := by
  obtain ⟨texts, fields, kinds, sorts, isCompiled⟩ := exists_isCompiledFrom vocabulary query
  exact ⟨texts, fields, kinds, isCompiled.keepsTokens sorts,
    fun _ _ _ other => sorts.unique other⟩

/-- Quoted and marked values and tokens without a recognized name stand in any order, and of two
pairs with the kind keyword the later one counts. -/
theorem ofQuery_keepsTokens_mixed :
    CompiledQuery.ofQuery (.ofSlugs ["name", "size"])
        "old  is:asset name:\"red  chair\" foo:x size:>3 is:tag" =
      ⟨some "old foo:x", some "name = \"red  chair\" AND size > 3", some .tag⟩ ∧
    KeepsTokens (.ofSlugs ["name", "size"])
      "old  is:asset name:\"red  chair\" foo:x size:>3 is:tag"
      ⟨some "old foo:x", some "name = \"red  chair\" AND size > 3", some .tag⟩
      ["old", "foo:x"] [("name", "\"red  chair\""), ("size", ">3")] ["asset", "tag"] := by
  have compiled : CompiledQuery.ofQuery (.ofSlugs ["name", "size"])
      "old  is:asset name:\"red  chair\" foo:x size:>3 is:tag" =
        ⟨some "old foo:x", some "name = \"red  chair\" AND size > 3", some .tag⟩ := by
    decide +kernel
  have sorts : Sorts (.ofSlugs ["name", "size"])
      (tokenTexts "old  is:asset name:\"red  chair\" foo:x size:>3 is:tag")
      ["old", "foo:x"] [("name", "\"red  chair\""), ("size", ">3")] ["asset", "tag"] := by
    have tokens : tokenTexts "old  is:asset name:\"red  chair\" foo:x size:>3 is:tag" =
        ["old", "is:asset", "name:\"red  chair\"", "foo:x", "size:>3", "is:tag"] := by
      decide +kernel
    rw [tokens]
    exact .text (by decide +kernel) <| .kind ⟨rfl, by decide, by decide, by decide⟩ <|
      .field ⟨rfl, by decide, by decide, by decide⟩ (by decide) <| .text (by decide +kernel) <|
      .field ⟨rfl, by decide, by decide, by decide⟩ (by decide) <|
      .kind ⟨rfl, by decide, by decide, by decide⟩ .nil
  obtain ⟨texts, fields, kinds, keeps, unique⟩ := ofQuery_keepsTokens (.ofSlugs ["name", "size"])
    "old  is:asset name:\"red  chair\" foo:x size:>3 is:tag"
  obtain ⟨rfl, rfl, rfl⟩ := unique _ _ _ sorts
  exact ⟨compiled, compiled ▸ keeps⟩

/-- Free text is not empty and has no blank at either end. -/
theorem freeText_solid {vocabulary : Vocabulary} {query text : String}
    (free : (CompiledQuery.ofQuery vocabulary query).text = some text) :
    text.toList ≠ [] ∧ StartsSolid text.toList ∧ EndsSolid text.toList := by
  by_cases hasPair : ∃ text ∈ tokenTexts query, HasPair vocabulary text
  · rw [CompiledQuery.ofQuery_pieces hasPair, CompiledQuery.ofPieces,
      joinNonempty_eq_some_iff] at free
    obtain ⟨nonempty, rfl⟩ := free
    obtain ⟨fields, kinds, sorts, -⟩ := sorts_pieces vocabulary (tokens query.toList)
    apply solid_intercalate nonempty
    intro word inside
    exact tokenTexts_isWord (sorts.texts_sublist.subset inside)
  · have noPair : ∀ text ∈ tokenTexts query, ¬ HasPair vocabulary text := by
      intro text inside isPair
      exact hasPair ⟨text, inside, isPair⟩
    rw [CompiledQuery.ofQuery_plain noPair, CompiledQuery.ofPlain] at free
    by_cases empty : (trimmed query).isEmpty = true
    · simp [empty] at free
    · have whole : trimmed query = text := by simpa [empty] using free
      subst whole
      refine ⟨?_, ?_, ?_⟩
      · intro none
        exact empty (String.isEmpty_iff.mpr (String.toList_eq_nil_iff.mp none))
      · rw [trimmed, String.toList_ofList]
        exact startsSolid_trim _
      · rw [trimmed, String.toList_ofList]
        exact endsSolid_trim _

theorem HasPair.mono {vocabulary larger : Vocabulary}
    (contained : ∀ name, vocabulary.contains name = true → larger.contains name = true)
    {text : String} (hasPair : HasPair vocabulary text) : HasPair larger text := by
  obtain ⟨name, value, pair⟩ := hasPair
  exact ⟨name, value, pair.text, pair.firstColon, contained name pair.recognized, pair.filled⟩

/-- Free text that is compiled again, with the same keywords or fewer, is all free text. -/
theorem freeText_recompiles {vocabulary smaller : Vocabulary} {query text : String}
    (contained : ∀ name, smaller.contains name = true → vocabulary.contains name = true)
    (free : (CompiledQuery.ofQuery vocabulary query).text = some text) :
    CompiledQuery.ofQuery smaller text = ⟨some text, none, none⟩ := by
  obtain ⟨texts, fields, kinds, sorts, isCompiled⟩ := exists_isCompiledFrom vocabulary query
  have sameTokens : tokenTexts text = texts := by
    have kept := isCompiled.text
    rw [free, Option.getD_some] at kept
    exact kept
  have noPair : ∀ word ∈ tokenTexts text, ¬ HasPair smaller word := by
    intro word inside hasPair
    rw [sameTokens] at inside
    exact sorts.texts_noPair word inside (hasPair.mono contained)
  obtain ⟨nonempty, starts, ends⟩ := freeText_solid free
  have same : trimmed text = text := by
    rw [trimmed, trim_eq_self starts ends, String.ofList_toList]
  have notEmpty : text.isEmpty = false := by
    rw [Bool.eq_false_iff]
    intro empty
    exact nonempty (String.toList_eq_nil_iff.mpr (String.isEmpty_iff.mp empty))
  rw [CompiledQuery.ofQuery_plain noPair, CompiledQuery.ofPlain]
  simp only [same, notEmpty, Bool.false_eq_true, if_false]

/-- Kept quotes, one of them never closed, and pairs between them do not change the result. -/
theorem freeText_recompiles_withQuotes :
    (∀ name, Vocabulary.base.contains name = true →
      (Vocabulary.ofSlugs ["name"]).contains name = true) ∧
    (CompiledQuery.ofQuery (.ofSlugs ["name"])
      " is:tag  \"red  chair\"   name:x  foo:bar \"a  ").text =
        some "\"red  chair\" foo:bar \"a" ∧
    CompiledQuery.ofQuery .base "\"red  chair\" foo:bar \"a" =
      ⟨some "\"red  chair\" foo:bar \"a", none, none⟩ := by
  have contained : ∀ name, Vocabulary.base.contains name = true →
      (Vocabulary.ofSlugs ["name"]).contains name = true := by
    have each : ∀ name ∈ Vocabulary.base.names,
        (Vocabulary.ofSlugs ["name"]).contains name = true := by decide
    intro name inBase
    exact each name (List.contains_iff_mem.mp inBase)
  have free : (CompiledQuery.ofQuery (.ofSlugs ["name"])
      " is:tag  \"red  chair\"   name:x  foo:bar \"a  ").text =
        some "\"red  chair\" foo:bar \"a" := by decide
  exact ⟨contained, free, freeText_recompiles contained free⟩

end AssetSearch.Query

/-
This file describes how a query is read: which ranges of bytes its tokens take up, and which of
them are recognized pairs. The reading of every query follows this description.
-/

import AssetSearch.Proofs.Query.Pairs
import AssetSearch.Proofs.Query.TokenRuns
import Mathlib.Data.List.Pairwise

namespace AssetSearch.Query

open AssetSearch.Text

/-- The first character is counted off before the others. -/
theorem byteLength_cons_eq_succ (character : Char) (rest : List Char) :
    ∃ count, byteLength (character :: rest) = count + 1 ∧
      count + 1 - character.utf8Size = byteLength rest := by
  have wide := character.utf8Size_pos
  refine ⟨character.utf8Size - 1 + byteLength rest, ?_, ?_⟩
  · rw [byteLength]
    omega
  · omega

theorem dropBytes_append (first second : List Char) :
    dropBytes (byteLength first) (first ++ second) = second := by
  induction first with
  | nil => cases second <;> rfl
  | cons character rest inductionHypothesis =>
      obtain ⟨count, total, left⟩ := byteLength_cons_eq_succ character rest
      rw [List.cons_append, total, dropBytes, left, inductionHypothesis]

theorem takeBytes_append (first second : List Char) :
    takeBytes (byteLength first) (first ++ second) = first := by
  induction first with
  | nil => cases second <;> rfl
  | cons character rest inductionHypothesis =>
      obtain ⟨count, total, left⟩ := byteLength_cons_eq_succ character rest
      rw [List.cons_append, total, takeBytes, left, inductionHypothesis]

/-- The two positions stand between characters, and the part is what stands between them. -/
def Span.CutsOut (span : Span) (query part : String) : Prop :=
  ∃ before after : String, query = before ++ part ++ after ∧ span.start = before.utf8ByteSize ∧
    span.stop = before.utf8ByteSize + part.utf8ByteSize

theorem Span.CutsOut.slice_eq {span : Span} {query part : String}
    (cuts : span.CutsOut query part) : span.slice query = part := by
  obtain ⟨before, after, text, starts, stops⟩ := cuts
  rw [Span.slice, starts, stops, Nat.add_sub_cancel_left, text, String.append_assoc,
    String.toList_append, String.toList_append, ← byteLength_toList, ← byteLength_toList,
    dropBytes_append, takeBytes_append, String.ofList_toList]

/-- This is the range of the characters from one position up to another one. -/
def runSpan (characters : List Char) (start stop : Nat) : Span :=
  ⟨byteLength (characters.take start), byteLength (characters.take stop)⟩

theorem take_append_run (characters : List Char) {start stop : Nat} (ordered : start ≤ stop) :
    characters.take start ++ (characters.take stop).drop start = characters.take stop := by
  have shorter := List.take_append_drop start (characters.take stop)
  rw [List.take_take, Nat.min_eq_left ordered] at shorter
  exact shorter

theorem runToken_span (characters : List Char) {start stop : Nat} (ordered : start ≤ stop) :
    (runToken 0 characters start stop).span = runSpan characters start stop := by
  have total := congrArg byteLength (take_append_run characters ordered)
  rw [byteLength_append] at total
  simp only [runToken, Token.span, runSpan, Nat.zero_add, total]

/-- A token stands in the query where its range says. -/
theorem token_cutsOut {query : String} {token : Token} (inside : token ∈ tokens query.toList) :
    token.span.CutsOut query token.text := by
  obtain ⟨start, stop, run, rfl⟩ := mem_tokens_iff.mp inside
  have whole := take_append_run query.toList (Nat.le_of_lt run.nonempty)
  refine ⟨String.ofList (query.toList.take start), String.ofList (query.toList.drop stop), ?_, ?_,
    ?_⟩
  · rw [← String.toList_inj]
    simp only [Token.text, runToken, String.toList_append, String.toList_ofList, whole,
      List.take_append_drop]
  · simp [← byteLength_toList, Token.span, runToken]
  · simp [← byteLength_toList, Token.span, runToken, Token.text]

theorem token_slice {query : String} {token : Token} (inside : token ∈ tokens query.toList) :
    token.span.slice query = token.text :=
  (token_cutsOut inside).slice_eq

/-- These are the ranges of the tokens of a query, in order. -/
def tokenSpans (query : String) : List Span :=
  (tokens query.toList).map Token.span

/-- The ranges are those of the maximal runs of token positions. -/
structure FollowsQuoting (query : String) (spans : List Span) : Prop where
  runs : ∀ span, span ∈ spans ↔ ∃ start stop,
    IsMaximalRun (IsTokenPosition query.toList) start stop ∧ span = runSpan query.toList start stop
  increasing : spans.Pairwise fun earlier later => earlier.stop < later.start
  nonempty : ∀ span ∈ spans, span.start < span.stop
  boundaries : ∀ span ∈ spans, span.CutsOut query (span.slice query)
  solidEnds : ∀ span ∈ spans,
    StartsSolid (span.slice query).toList ∧ EndsSolid (span.slice query).toList
  covers : ∀ index character, query.toList[index]? = some character → isBlank character = false →
    ∃! span, span ∈ spans ∧ span.start ≤ byteLength (query.toList.take index) ∧
      byteLength (query.toList.take (index + 1)) ≤ span.stop

theorem mem_tokenSpans_iff {query : String} {span : Span} :
    span ∈ tokenSpans query ↔ ∃ start stop,
      IsMaximalRun (IsTokenPosition query.toList) start stop ∧
        span = runSpan query.toList start stop := by
  rw [tokenSpans, List.mem_map]
  constructor
  · intro given
    obtain ⟨token, inside, rfl⟩ := given
    obtain ⟨start, stop, run, rfl⟩ := mem_tokens_iff.mp inside
    exact ⟨start, stop, run, runToken_span _ (Nat.le_of_lt run.nonempty)⟩
  · intro given
    obtain ⟨start, stop, run, rfl⟩ := given
    exact ⟨_, mem_tokens_iff.mpr ⟨start, stop, run, rfl⟩,
      runToken_span _ (Nat.le_of_lt run.nonempty)⟩

theorem tokenSpans_increasing (query : String) :
    (tokenSpans query).Pairwise fun earlier later => earlier.stop < later.start :=
  List.pairwise_map.mpr (tokens_increasing query.toList)

/-- Ranges that stand one after the other have no common bytes. -/
theorem increasing_unique {spans : List Span}
    (increasing : spans.Pairwise fun earlier later => earlier.stop < later.start)
    {first second : Span} (inFirst : first ∈ spans) (inSecond : second ∈ spans) {lower upper : Nat}
    (ordered : lower ≤ upper) (firstStart : first.start ≤ lower) (firstStop : upper ≤ first.stop)
    (secondStart : second.start ≤ lower) (secondStop : upper ≤ second.stop) : first = second := by
  by_contra different
  have apart : spans.Pairwise fun one other => one.stop < other.start ∨ other.stop < one.start :=
    increasing.imp Or.inl
  have symmetric : Std.Symm fun one other : Span =>
      one.stop < other.start ∨ other.stop < one.start := ⟨fun _ _ => Or.symm⟩
  have disjoint := apart.forall inFirst inSecond different
  omega

theorem tokenSpans_covers (query : String) {index : Nat} {character : Char}
    (found : query.toList[index]? = some character) (solid : isBlank character = false) :
    ∃! span, span ∈ tokenSpans query ∧ span.start ≤ byteLength (query.toList.take index) ∧
      byteLength (query.toList.take (index + 1)) ≤ span.stop := by
  have bounded : ∀ position, query.toList.length ≤ position →
      ¬ IsTokenPosition query.toList position := by
    intro position beyond given
    obtain ⟨other, here, -⟩ := given
    rw [List.getElem?_eq_none beyond] at here
    cases here
  obtain ⟨start, stop, run, lower, upper⟩ :=
    exists_maximalRun bounded ⟨character, found, Or.inl solid⟩
  have ordered := byteLength_take_le query.toList (Nat.le_succ index)
  have starts := byteLength_take_le query.toList lower
  have stops := byteLength_take_le query.toList (Nat.succ_le_of_lt upper)
  have inside := mem_tokenSpans_iff.mpr ⟨start, stop, run, rfl⟩
  refine ⟨runSpan query.toList start stop, ⟨inside, starts, stops⟩, ?_⟩
  intro other given
  obtain ⟨alsoInside, otherStart, otherStop⟩ := given
  exact increasing_unique (tokenSpans_increasing query) alsoInside inside ordered otherStart
    otherStop starts stops

theorem tokenSpans_followsQuoting (query : String) : FollowsQuoting query (tokenSpans query) where
  runs _ := mem_tokenSpans_iff
  increasing := tokenSpans_increasing query
  nonempty span inside := by
    obtain ⟨token, member, rfl⟩ := List.mem_map.mp inside
    obtain ⟨character, rest, text⟩ :=
      List.exists_cons_of_ne_nil (isWord_of_mem_tokens member).nonempty
    have wide := character.utf8Size_pos
    rw [Token.span, text, byteLength]
    exact Nat.lt_add_of_pos_right (Nat.add_pos_left wide _)
  boundaries span inside := by
    obtain ⟨token, member, rfl⟩ := List.mem_map.mp inside
    rw [token_slice member]
    exact token_cutsOut member
  solidEnds span inside := by
    obtain ⟨token, member, rfl⟩ := List.mem_map.mp inside
    have word := isWord_of_mem_tokens member
    rw [token_slice member, Token.text, String.toList_ofList]
    exact ⟨word.starts, word.ends⟩
  covers _ _ found solid := tokenSpans_covers query found solid

/-- A piece tells what the query holds in its range. The value of a pair is what stands behind the
first colon, without its quotes. -/
def Piece.Describes (vocabulary : Vocabulary) (query : String) : Piece → Prop
  | pair keyword value span =>
      ∃ raw, IsPair vocabulary (span.slice query) keyword raw ∧ StripsQuotes raw value
  | text content span => content = span.slice query ∧ ¬ HasPair vocabulary (span.slice query)

/-- A query is kept whole exactly when none of its tokens is a recognized pair. -/
def Reading.Describes (vocabulary : Vocabulary) (query : String) (spans : List Span) :
    Reading → Prop
  | plain whole => whole = query ∧ ∀ span ∈ spans, ¬ HasPair vocabulary (span.slice query)
  | pieces parts => parts.map Piece.span = spans ∧
      (∀ piece ∈ parts, piece.Describes vocabulary query) ∧
        ∃ span ∈ spans, HasPair vocabulary (span.slice query)

theorem Piece.ofToken_describes (vocabulary : Vocabulary) {query : String} {token : Token}
    (inside : token ∈ tokens query.toList) :
    (Piece.ofToken vocabulary token).Describes vocabulary query := by
  have slice := token_slice inside
  rcases Piece.ofToken_cases vocabulary token with ⟨noPair, piece⟩ | ⟨name, raw, pair, piece⟩
  · rw [piece, Piece.Describes, slice]
    exact ⟨rfl, noPair⟩
  · rw [piece, Piece.Describes, slice]
    exact ⟨raw, pair, stripsQuotes_iff.mpr rfl⟩

theorem reading_describes (vocabulary : Vocabulary) (query : String) :
    (Reading.ofQuery vocabulary query).Describes vocabulary query (tokenSpans query) := by
  rw [Reading.ofQuery]
  split
  · next recognized =>
      rw [List.any_map, List.any_eq_true] at recognized
      refine ⟨?_, ?_, ?_⟩
      · rw [List.map_map, tokenSpans]
        exact List.map_congr_left fun token _ => Piece.ofToken_span vocabulary token
      · intro piece member
        obtain ⟨token, inside, rfl⟩ := List.mem_map.mp member
        exact Piece.ofToken_describes vocabulary inside
      · obtain ⟨token, inside, isPair⟩ := recognized
        refine ⟨token.span, List.mem_map_of_mem inside, ?_⟩
        rw [token_slice inside]
        exact Piece.ofToken_isPair_iff.mp isPair
  · next unrecognized =>
      rw [List.any_map, List.any_eq_true] at unrecognized
      refine ⟨rfl, ?_⟩
      intro span member hasPair
      obtain ⟨token, inside, rfl⟩ := List.mem_map.mp member
      rw [token_slice inside] at hasPair
      exact unrecognized ⟨token, inside, Piece.ofToken_isPair_iff.mpr hasPair⟩

/-- The tokens of a query are the maximal runs of its token positions, and its pieces are these
tokens, with every recognized pair taken apart. -/
theorem tokens_and_reading_followGrammar (vocabulary : Vocabulary) (query : String) :
    FollowsQuoting query (tokenSpans query) ∧
      (Reading.ofQuery vocabulary query).Describes vocabulary query (tokenSpans query) :=
  ⟨tokenSpans_followsQuoting query, reading_describes vocabulary query⟩

/-- One value is closed and has a blank and a colon between its quotes, the other one is open and
runs to the last character that is not blank. -/
theorem tokens_and_reading_followGrammar_quotes :
    FollowsQuoting " name:\"a :b\" x:y size:\"3 \t" [⟨1, 12⟩, ⟨13, 16⟩, ⟨17, 24⟩] ∧
      Reading.ofQuery (.ofSlugs ["name", "size"]) " name:\"a :b\" x:y size:\"3 \t" =
        .pieces [.pair "name" "a :b" ⟨1, 12⟩, .text "x:y" ⟨13, 16⟩, .pair "size" "3" ⟨17, 24⟩] ∧
      Reading.Describes (.ofSlugs ["name", "size"]) " name:\"a :b\" x:y size:\"3 \t"
        [⟨1, 12⟩, ⟨13, 16⟩, ⟨17, 24⟩]
        (.pieces [.pair "name" "a :b" ⟨1, 12⟩, .text "x:y" ⟨13, 16⟩,
          .pair "size" "3" ⟨17, 24⟩]) := by
  have spans : tokenSpans " name:\"a :b\" x:y size:\"3 \t" =
      [⟨1, 12⟩, ⟨13, 16⟩, ⟨17, 24⟩] := by
    decide +kernel
  have read : Reading.ofQuery (.ofSlugs ["name", "size"]) " name:\"a :b\" x:y size:\"3 \t" =
      .pieces [.pair "name" "a :b" ⟨1, 12⟩, .text "x:y" ⟨13, 16⟩,
        .pair "size" "3" ⟨17, 24⟩] := by
    decide +kernel
  have follows := tokens_and_reading_followGrammar (.ofSlugs ["name", "size"])
    " name:\"a :b\" x:y size:\"3 \t"
  rw [spans, read] at follows
  exact ⟨follows.1, read, follows.2⟩

end AssetSearch.Query

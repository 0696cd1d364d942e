/-
This file shows how tokens behave when queries are put together. Blanks after a query whose quotes
are all closed separate its tokens from those that follow, and each token is the only token of its
own text.
-/

import AssetSearch.Proofs.Text.Blank
import AssetSearch.Proofs.Text.Bytes
import AssetSearch.Query.Token

namespace AssetSearch.Query

open AssetSearch.Text

/-- Every double quote opens or closes a quoted part. -/
def quotedAfter (quoted : Bool) (characters : List Char) : Bool :=
  characters.foldl (fun quoted character => quoted != (character == '"')) quoted

@[simp] theorem quotedAfter_nil (quoted : Bool) : quotedAfter quoted [] = quoted := rfl

@[simp] theorem quotedAfter_cons (quoted : Bool) (character : Char) (rest : List Char) :
    quotedAfter quoted (character :: rest) = quotedAfter (quoted != (character == '"')) rest := rfl

theorem quotedAfter_append (quoted : Bool) (first second : List Char) :
    quotedAfter quoted (first ++ second) = quotedAfter (quotedAfter quoted first) second := by
  rw [quotedAfter, List.foldl_append]
  rfl

/-- A part is quoted after an odd number of double quotes. -/
theorem quotedAfter_eq_odd (quoted : Bool) (characters : List Char) :
    quotedAfter quoted characters = (quoted != (characters.count '"' % 2 == 1)) := by
  induction characters generalizing quoted with
  | nil => cases quoted <;> rfl
  | cons character rest inductionHypothesis =>
      rw [quotedAfter_cons, inductionHypothesis, List.count_cons]
      have parity : rest.count '"' % 2 = 0 ∨ rest.count '"' % 2 = 1 := by omega
      by_cases quote : character = '"'
      · rcases parity with even | odd
        · have next : (rest.count '"' + 1) % 2 = 1 := by omega
          cases quoted <;> simp [quote, even, next]
        · have next : (rest.count '"' + 1) % 2 = 0 := by omega
          cases quoted <;> simp [quote, odd, next]
      · have different : (character == '"') = false := beq_eq_false_iff_ne.mpr quote
        simp [different]

theorem quotedAfter_false_iff {characters : List Char} :
    quotedAfter false characters = false ↔ characters.count '"' % 2 = 0 := by
  rw [quotedAfter_eq_odd]
  have parity : characters.count '"' % 2 = 0 ∨ characters.count '"' % 2 = 1 := by omega
  rcases parity with even | odd
  · simp [even]
  · simp [odd]

theorem isBlank_ne_quote {character : Char} (blank : isBlank character = true) :
    character ≠ '"' := by
  intro quote
  rw [quote] at blank
  exact absurd blank (by decide)

/-- Blanks neither open nor close a quoted part. -/
theorem quotedAfter_blanks (quoted : Bool) {blanks : List Char} (blank : AllBlank blanks) :
    quotedAfter quoted blanks = quoted := by
  have none : blanks.count '"' = 0 := by
    rw [List.count_eq_zero]
    intro inside
    exact isBlank_ne_quote (blank _ inside) rfl
  rw [quotedAfter_eq_odd, none]
  cases quoted <;> rfl

/-- These are the tokens from a position on, with one that may begin there. -/
def tokensAt (position : Nat) (quoted : Bool) (characters : List Char) : List Token :=
  consToken (tokensFrom position quoted characters).1 position
    (tokensFrom position quoted characters).2

theorem tokens_eq_tokensAt (query : List Char) : tokens query = tokensAt 0 false (trimEnd query) :=
  rfl

@[simp] theorem tokensFrom_nil (position : Nat) (quoted : Bool) :
    tokensFrom position quoted [] = ([], []) := rfl

@[simp] theorem tokensAt_nil (position : Nat) (quoted : Bool) :
    tokensAt position quoted [] = [] := rfl

/-- A blank outside quotes ends the token before it. -/
theorem tokensFrom_blank (position : Nat) {character : Char} (blank : isBlank character = true)
    (rest : List Char) :
    tokensFrom position false (character :: rest) =
      ([], tokensAt (position + character.utf8Size) false rest) := by
  simp [tokensFrom, blank, tokensAt]

/-- Any other character belongs to a token. -/
theorem tokensFrom_solid (position : Nat) {quoted : Bool} {character : Char}
    (solid : (isBlank character && !quoted) = false) (rest : List Char) :
    tokensFrom position quoted (character :: rest) =
      (character ::
        (tokensFrom (position + character.utf8Size) (quoted != (character == '"')) rest).1,
        (tokensFrom (position + character.utf8Size) (quoted != (character == '"')) rest).2) := by
  rw [tokensFrom]
  simp only [solid, Bool.false_eq_true, if_false]

/-- A character either ends a token or belongs to one. -/
theorem separates_or_solid (quoted : Bool) (character : Char) :
    (quoted = false ∧ isBlank character = true) ∨ (isBlank character && !quoted) = false := by
  cases quoted <;> cases isBlank character <;> simp

theorem consToken_append (characters : List Char) (start : Nat) (first second : List Token) :
    consToken characters start (first ++ second) = consToken characters start first ++ second := by
  cases characters <;> rfl

/-- A blank after closed quotes separates the tokens before it from those after it. -/
theorem tokensFrom_append (position : Nat) {quoted : Bool} {first : List Char} {blank : Char}
    (closed : quotedAfter quoted first = false) (isSeparator : isBlank blank = true)
    (second : List Char) :
    tokensFrom position quoted (first ++ blank :: second) =
      ((tokensFrom position quoted first).1,
        (tokensFrom position quoted first).2 ++
          tokensAt (position + byteLength first + blank.utf8Size) false second) := by
  induction first generalizing position quoted with
  | nil =>
      rw [quotedAfter_nil] at closed
      subst closed
      simp [tokensFrom_blank _ isSeparator, byteLength]
  | cons character rest inductionHypothesis =>
      rw [quotedAfter_cons] at closed
      have later := inductionHypothesis (position + character.utf8Size) closed
      have total : position + character.utf8Size + byteLength rest =
          position + byteLength (character :: rest) := by
        rw [byteLength]
        omega
      rw [total] at later
      rcases separates_or_solid quoted character with ⟨outside, ends⟩ | solid
      · subst outside
        have unchanged : (false != (character == '"')) = false := by
          simpa using isBlank_ne_quote ends
        rw [unchanged] at later
        rw [List.cons_append, tokensFrom_blank _ ends, tokensFrom_blank _ ends, tokensAt, later,
          consToken_append]
        rfl
      · rw [List.cons_append, tokensFrom_solid _ solid, tokensFrom_solid _ solid, later]

theorem tokensAt_append (position : Nat) {quoted : Bool} {first : List Char} {blank : Char}
    (closed : quotedAfter quoted first = false) (isSeparator : isBlank blank = true)
    (second : List Char) :
    tokensAt position quoted (first ++ blank :: second) =
      tokensAt position quoted first ++
        tokensAt (position + byteLength first + blank.utf8Size) false second := by
  rw [tokensAt, tokensFrom_append position closed isSeparator, consToken_append]
  rfl

/-- The same characters may stand further on. -/
def Token.shift (offset : Nat) (token : Token) : Token :=
  { token with start := offset + token.start }

theorem consToken_shift (offset : Nat) (characters : List Char) (start : Nat)
    (tokens : List Token) :
    consToken characters (offset + start) (tokens.map (Token.shift offset)) =
      (consToken characters start tokens).map (Token.shift offset) := by
  cases characters <;> rfl

/-- Positions count from the beginning of the query only. -/
theorem tokensFrom_shift (offset position : Nat) (quoted : Bool) (characters : List Char) :
    tokensFrom (offset + position) quoted characters =
      ((tokensFrom position quoted characters).1,
        (tokensFrom position quoted characters).2.map (Token.shift offset)) := by
  induction characters generalizing position quoted with
  | nil => rfl
  | cons character rest inductionHypothesis =>
      have next : offset + position + character.utf8Size =
          offset + (position + character.utf8Size) := Nat.add_assoc _ _ _
      rcases separates_or_solid quoted character with ⟨outside, ends⟩ | solid
      · subst outside
        rw [tokensFrom_blank _ ends, tokensFrom_blank _ ends, next, tokensAt,
          inductionHypothesis, consToken_shift]
        rfl
      · rw [tokensFrom_solid _ solid, tokensFrom_solid _ solid, next, inductionHypothesis]

theorem tokensAt_shift (offset position : Nat) (quoted : Bool) (characters : List Char) :
    tokensAt (offset + position) quoted characters =
      (tokensAt position quoted characters).map (Token.shift offset) := by
  rw [tokensAt, tokensFrom_shift, consToken_shift]
  rfl

/-- Blanks outside quotes make no tokens. -/
theorem tokensAt_blanks (position : Nat) {blanks : List Char} (blank : AllBlank blanks) :
    tokensAt position false blanks = [] := by
  induction blanks generalizing position with
  | nil => rfl
  | cons character rest inductionHypothesis =>
      obtain ⟨first, later⟩ := allBlank_cons.mp blank
      rw [tokensAt, tokensFrom_blank _ first, inductionHypothesis _ later]
      rfl

/-- The end of a query with closed quotes need not be trimmed. -/
theorem tokens_eq_of_closed {query : List Char} (closed : quotedAfter false query = false) :
    tokens query = tokensAt 0 false query := by
  obtain ⟨blanks, blank, split⟩ := exists_trimEnd_append query
  rw [tokens_eq_tokensAt]
  cases blanks with
  | nil => rw [List.append_nil] at split; rw [← split]
  | cons character rest =>
      obtain ⟨first, later⟩ := allBlank_cons.mp blank
      rw [split, quotedAfter_append, quotedAfter_blanks _ blank] at closed
      conv_rhs => rw [split, tokensAt_append 0 closed first, tokensAt_blanks _ later,
        List.append_nil]

/-- Blanks at the end of a query belong to no token. -/
theorem tokens_append_blanks (query : List Char) {blanks : List Char} (blank : AllBlank blanks) :
    tokens (query ++ blanks) = tokens query := by
  rw [tokens_eq_tokensAt, trimEnd_append_blanks query blank]
  rfl

theorem tokens_blanks {blanks : List Char} (blank : AllBlank blanks) : tokens blanks = [] :=
  tokens_append_blanks [] blank

theorem tokens_append_blank {first : List Char} {blank : Char}
    (closed : quotedAfter false first = false) (isSeparator : isBlank blank = true)
    (second : List Char) :
    tokens (first ++ blank :: second) =
      tokens first ++
        (tokens second).map (Token.shift (byteLength first + blank.utf8Size)) := by
  by_cases empty : trimEnd second = []
  · have allBlank : AllBlank (blank :: second) :=
      allBlank_cons.mpr ⟨isSeparator, trimEnd_eq_nil_iff.mp empty⟩
    rw [tokens_append_blanks first allBlank, tokens_blanks (trimEnd_eq_nil_iff.mp empty),
      List.map_nil, List.append_nil]
  · have trimmed : trimEnd (first ++ blank :: second) = first ++ blank :: trimEnd second := by
      have split : first ++ blank :: second = (first ++ [blank]) ++ second := by simp
      rw [split, trimEnd_append empty]
      simp
    rw [tokens_eq_tokensAt, trimmed, tokensAt_append 0 closed isSeparator,
      tokens_eq_of_closed closed, tokens_eq_tokensAt second]
    have moved := tokensAt_shift (byteLength first + blank.utf8Size) 0 false (trimEnd second)
    rw [Nat.add_zero] at moved
    rw [Nat.zero_add, moved]

/-- Blanks after closed quotes separate the tokens before them from those after them, and the
tokens on both sides are those of the two sides alone. -/
theorem tokens_append {first blanks : List Char} (closed : quotedAfter false first = false)
    (nonempty : blanks ≠ []) (blank : AllBlank blanks) (second : List Char) :
    tokens (first ++ (blanks ++ second)) =
      tokens first ++ (tokens second).map (Token.shift (byteLength (first ++ blanks))) := by
  induction blanks generalizing first with
  | nil => exact absurd rfl nonempty
  | cons character rest inductionHypothesis =>
      obtain ⟨isSeparator, later⟩ := allBlank_cons.mp blank
      cases rest with
      | nil =>
          have one := tokens_append_blank closed isSeparator second
          simpa [byteLength] using one
      | cons next rest =>
          -- The first blank is moved to the query in front, whose tokens it does not change.
          have single : AllBlank [character] := allBlank_cons.mpr ⟨isSeparator, allBlank_nil⟩
          have stillClosed : quotedAfter false (first ++ [character]) = false := by
            rw [quotedAfter_append, quotedAfter_blanks _ single, closed]
          have moved := inductionHypothesis stillClosed (List.cons_ne_nil _ _) later
          rw [tokens_append_blanks first single] at moved
          simpa using moved

/-- Blanks at the beginning of a query only move its tokens. -/
theorem tokens_blanks_append {blanks : List Char} (blank : AllBlank blanks) (query : List Char) :
    tokens (blanks ++ query) = (tokens query).map (Token.shift (byteLength blanks)) := by
  cases blanks with
  | nil =>
      have still : Token.shift 0 = id := by
        funext token
        simp [Token.shift]
      simp [byteLength, still]
  | cons character rest =>
      have closed : quotedAfter false [] = false := rfl
      exact tokens_append closed (List.cons_ne_nil _ _) blank query

/-- A word is scanned as one token without an end. -/
structure IsWord (characters : List Char) : Prop where
  whole : ∀ position, tokensFrom position false characters = (characters, [])
  nonempty : characters ≠ []
  starts : StartsSolid characters
  ends : EndsSolid characters

/-- A word is the only token of its own text. -/
theorem IsWord.tokens_eq {characters : List Char} (word : IsWord characters) :
    tokens characters = [⟨characters, 0⟩] := by
  rw [tokens_eq_tokensAt, trimEnd_eq_self word.ends, tokensAt, word.whole, consToken,
    if_neg (by simpa using word.nonempty)]

/-- The first part continues a token that is open, and quotes are closed wherever a token ends. -/
structure Scanned (quoted : Bool) (first : List Char) (later : List Token) : Prop where
  whole : ∀ position, tokensFrom position quoted first = (first, [])
  ends : EndsSolid first
  closed : later ≠ [] → quotedAfter quoted first = false
  words : ∀ token ∈ later, IsWord token.characters
  closedBefore : later.Pairwise fun token _ => quotedAfter false token.characters = false

/-- Outside quotes a token begins with no blank. -/
theorem startsSolid_tokensFrom (position : Nat) (characters : List Char) :
    StartsSolid (tokensFrom position false characters).1 := by
  cases characters with
  | nil => exact startsSolid_nil
  | cons character rest =>
      rcases separates_or_solid false character with ⟨-, ends⟩ | solid
      · rw [tokensFrom_blank _ ends]
        exact startsSolid_nil
      · rw [tokensFrom_solid _ solid, startsSolid_cons]
        simpa using solid

theorem Scanned.words_consToken {first : List Char} {later : List Token}
    (scanned : Scanned false first later) (starts : StartsSolid first) (start : Nat) :
    ∀ token ∈ consToken first start later, IsWord token.characters := by
  intro token inside
  cases first with
  | nil => exact scanned.words token inside
  | cons character rest =>
      rcases List.mem_cons.mp inside with same | further
      · rw [same]
        exact ⟨scanned.whole, List.cons_ne_nil _ _, starts, scanned.ends⟩
      · exact scanned.words token further

theorem Scanned.closedBefore_consToken {first : List Char} {later : List Token}
    (scanned : Scanned false first later) (start : Nat) :
    (consToken first start later).Pairwise
      fun token _ => quotedAfter false token.characters = false := by
  cases first with
  | nil => exact scanned.closedBefore
  | cons character rest =>
      refine List.Pairwise.cons ?_ scanned.closedBefore
      intro token inside
      exact scanned.closed (List.ne_nil_of_mem inside)

/-- A token that ends right after a character does not end with a blank. -/
theorem endsSolid_open (position : Nat) {quoted : Bool} {character : Char} {rest : List Char}
    (solid : (isBlank character && !quoted) = false) (ends : EndsSolid (character :: rest))
    (stops : (tokensFrom position (quoted != (character == '"')) rest).1 = []) :
    isBlank character = false := by
  cases rest with
  | nil => exact endsSolid_singleton.mp ends
  | cons next rest =>
      rcases separates_or_solid (quoted != (character == '"')) next with ⟨closed, -⟩ | nextSolid
      · by_contra blank
        rw [Bool.not_eq_false] at blank
        have different : (character == '"') = false :=
          beq_eq_false_iff_ne.mpr (isBlank_ne_quote blank)
        cases quoted <;> simp [blank, different] at solid closed
      · rw [tokensFrom_solid _ nextSolid] at stops
        exact absurd stops (List.cons_ne_nil _ _)

theorem tokensFrom_scanned (position : Nat) (quoted : Bool) {characters : List Char}
    (ends : EndsSolid characters) :
    Scanned quoted (tokensFrom position quoted characters).1
      (tokensFrom position quoted characters).2 := by
  induction characters generalizing position quoted with
  | nil => exact ⟨fun _ => rfl, endsSolid_nil, fun some => absurd rfl some, by simp, by simp⟩
  | cons character rest inductionHypothesis =>
      rcases separates_or_solid quoted character with ⟨outside, blank⟩ | solid
      · subst outside
        have later := inductionHypothesis (position + character.utf8Size) false ends.ofCons
        rw [tokensFrom_blank _ blank]
        exact ⟨fun _ => rfl, endsSolid_nil, fun _ => rfl,
          later.words_consToken (startsSolid_tokensFrom _ _) _, later.closedBefore_consToken _⟩
      · have later := inductionHypothesis (position + character.utf8Size)
          (quoted != (character == '"')) ends.ofCons
        rw [tokensFrom_solid _ solid]
        refine ⟨?_, ?_, later.closed, later.words, later.closedBefore⟩
        · intro other
          rw [tokensFrom_solid _ solid, later.whole]
        · cases stops : (tokensFrom (position + character.utf8Size)
              (quoted != (character == '"')) rest).1 with
          | nil => exact endsSolid_singleton.mpr (endsSolid_open _ solid ends stops)
          | cons following others =>
              rw [endsSolid_cons_cons, ← stops]
              exact later.ends

/-- Every token of a query is a word. -/
theorem isWord_of_mem_tokens {query : List Char} {token : Token} (inside : token ∈ tokens query) :
    IsWord token.characters := by
  have scanned := tokensFrom_scanned 0 false (endsSolid_trimEnd query)
  exact scanned.words_consToken (startsSolid_tokensFrom _ _) 0 token inside

/-- Only the last token of a query may hold a quote that is not closed. -/
theorem tokens_closedBefore (query : List Char) :
    (tokens query).Pairwise fun token _ => quotedAfter false token.characters = false := by
  have scanned := tokensFrom_scanned 0 false (endsSolid_trimEnd query)
  exact scanned.closedBefore_consToken 0

end AssetSearch.Query

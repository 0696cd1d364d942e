/-
This file shows which tokens characters are cut into, whatever stands before and after them.
-/

import AssetSearch.Json.Token
import AssetSearch.Proofs.Number.Numeral

namespace AssetSearch.Json

/-- The tokens of the characters come after those before them. -/
def tokensAfter (before : List Token) (characters : List Char) : Option (List Token) :=
  (Lexer.run ⟨.between, before⟩ characters).bind Lexer.finish

/-- No numeral and no word goes on with the first of the characters. -/
def EndsToken (characters : List Char) : Prop :=
  ∀ character, characters.head? = some character →
    isNumeralCharacter character = false ∧ character.isAlpha = false

@[simp] theorem endsToken_nil : EndsToken [] := by
  intro character first
  cases first

@[simp] theorem endsToken_cons {character : Char} {rest : List Char} :
    EndsToken (character :: rest) ↔
      isNumeralCharacter character = false ∧ character.isAlpha = false := by
  simp [EndsToken]

theorem EndsToken.append {first second : List Char} (ends : EndsToken first)
    (later : EndsToken second) : EndsToken (first ++ second) := by
  cases first with
  | nil => exact later
  | cons character rest => exact endsToken_cons.mpr (endsToken_cons.mp ends)

/-- The characters are cut into these tokens, if none of them goes on behind the last one. -/
def Yields (characters : List Char) (tokens : List Token) : Prop :=
  ∀ before rest, EndsToken rest →
    tokensAfter before (characters ++ rest) = tokensAfter (tokens.reverse ++ before) rest

/-- The characters are cut into these tokens whatever stands behind them. -/
def YieldsAlways (characters : List Char) (tokens : List Token) : Prop :=
  ∀ before rest,
    tokensAfter before (characters ++ rest) = tokensAfter (tokens.reverse ++ before) rest

theorem Yields.tokens?_eq {characters : List Char} {tokens : List Token}
    (yields : Yields characters tokens) : tokens? characters = some tokens := by
  have whole := yields [] [] endsToken_nil
  rw [List.append_nil, List.append_nil] at whole
  change tokensAfter [] characters = _
  rw [whole]
  exact congrArg some (List.reverse_reverse tokens)

section

variable {first second : List Char} {tokens others : List Token}

theorem YieldsAlways.yields (always : YieldsAlways first tokens) : Yields first tokens :=
  fun before rest _ => always before rest

theorem YieldsAlways.append (always : YieldsAlways first tokens)
    (later : YieldsAlways second others) : YieldsAlways (first ++ second) (tokens ++ others) := by
  intro before rest
  rw [List.append_assoc, always, later, List.reverse_append, List.append_assoc]

theorem YieldsAlways.append_yields (always : YieldsAlways first tokens)
    (later : Yields second others) : Yields (first ++ second) (tokens ++ others) := by
  intro before rest ends
  rw [List.append_assoc, always, later _ _ ends, List.reverse_append, List.append_assoc]

/-- What ends the tokens of the first part is the second one. -/
theorem Yields.append (yields : Yields first tokens) (ends : EndsToken second)
    (later : Yields second others) : Yields (first ++ second) (tokens ++ others) := by
  intro before rest restEnds
  rw [List.append_assoc, yields _ _ (ends.append restEnds), later _ _ restEnds,
    List.reverse_append, List.append_assoc]

end

/-- A token is alone if it ends with its last character. -/
theorem yieldsAlways_punctuation {character : Char} {token : Token}
    (mark : punctuation? character = some token) (notSpace : isSpace character = false)
    (notQuote : character ≠ '"') (notDigit : character.isDigit = false)
    (notMinus : character ≠ '-') (notLetter : character.isAlpha = false) :
    YieldsAlways [character] [token] := by
  intro before rest
  have step : Lexer.step ⟨.between, before⟩ character = some ⟨.between, token :: before⟩ := by
    simp [Lexer.step, Lexer.startToken, mark, notSpace, notQuote, notDigit, notMinus, notLetter]
  simp only [tokensAfter, List.singleton_append, Lexer.run, step, List.reverse_singleton]

theorem yieldsAlways_spaces {spaces : List Char}
    (allSpaces : ∀ character ∈ spaces, isSpace character = true) : YieldsAlways spaces [] := by
  intro before rest
  induction spaces with
  | nil => rfl
  | cons character later inductionHypothesis =>
      obtain ⟨isSpace, laterSpaces⟩ := List.forall_mem_cons.mp allSpaces
      have step : Lexer.step ⟨.between, before⟩ character = some ⟨.between, before⟩ := by
        simp [Lexer.step, Lexer.startToken, isSpace]
      have further := inductionHypothesis laterSpaces
      simp only [tokensAfter, List.cons_append, Lexer.run, step] at further ⊢
      exact further

theorem endsToken_spaces {spaces : List Char}
    (allSpaces : ∀ character ∈ spaces, isSpace character = true) : EndsToken spaces := by
  cases spaces with
  | nil => exact endsToken_nil
  | cons character later =>
      have isSpace := allSpaces character List.mem_cons_self
      simp only [Json.isSpace, Bool.or_eq_true, decide_eq_true_eq] at isSpace
      rw [endsToken_cons]
      rcases isSpace with ((rfl | rfl) | rfl) | rfl
      all_goals exact ⟨by decide, by decide⟩

/-- A mode collects the characters of one token and ends at the first character of another. -/
structure Collects (mode : List Char → LexerMode) (token : List Char → Token)
    (continues : Char → Bool) : Prop where
  step : ∀ characters tokens character,
    Lexer.step ⟨mode characters, tokens⟩ character =
      if continues character then some ⟨mode (character :: characters), tokens⟩
      else Lexer.startToken (token characters.reverse :: tokens) character
  finish : ∀ characters tokens,
    Lexer.finish ⟨mode characters, tokens⟩ = some (token characters.reverse :: tokens).reverse

theorem collects_numeral : Collects .inNumeral .numeral isNumeralCharacter :=
  ⟨fun _ _ _ => rfl, fun _ _ => rfl⟩

theorem collects_word : Collects .inWord .word Char.isAlpha :=
  ⟨fun _ _ _ => rfl, fun _ _ => rfl⟩

namespace Collects

variable {mode : List Char → LexerMode} {token : List Char → Token} {continues : Char → Bool}

theorem run_append (collects : Collects mode token continues) {characters : List Char}
    (goOn : ∀ character ∈ characters, continues character = true) (collected : List Char)
    (tokens : List Token) (rest : List Char) :
    Lexer.run ⟨mode collected, tokens⟩ (characters ++ rest) =
      Lexer.run ⟨mode (characters.reverse ++ collected), tokens⟩ rest := by
  induction characters generalizing collected with
  | nil => rfl
  | cons character later inductionHypothesis =>
      obtain ⟨goesOn, laterGoOn⟩ := List.forall_mem_cons.mp goOn
      rw [List.cons_append, Lexer.run, collects.step, if_pos goesOn]
      simp only
      rw [inductionHypothesis laterGoOn, List.reverse_cons, List.append_assoc]
      rfl

/-- At its end the token is added, as if no character of it had been pending. -/
theorem run_end (collects : Collects mode token continues) (collected : List Char)
    (tokens : List Token) {rest : List Char}
    (ends : ∀ character, rest.head? = some character → continues character = false) :
    (Lexer.run ⟨mode collected, tokens⟩ rest).bind Lexer.finish =
      tokensAfter (token collected.reverse :: tokens) rest := by
  cases rest with
  | nil => exact collects.finish collected tokens
  | cons character later =>
      have stops := ends character rfl
      have step : Lexer.step ⟨mode collected, tokens⟩ character =
          Lexer.step ⟨.between, token collected.reverse :: tokens⟩ character := by
        rw [collects.step, stops]
        rfl
      rw [tokensAfter, Lexer.run, Lexer.run, step]

theorem yields (collects : Collects mode token continues) {first : Char} {later : List Char}
    (starts : ∀ tokens, Lexer.startToken tokens first = some ⟨mode [first], tokens⟩)
    (goOn : ∀ character ∈ later, continues character = true)
    (ends : ∀ character, isNumeralCharacter character = false ∧ character.isAlpha = false →
      continues character = false) :
    Yields (first :: later) [token (first :: later)] := by
  intro before rest restEnds
  have step : Lexer.step ⟨.between, before⟩ first = some ⟨mode [first], before⟩ := starts before
  rw [tokensAfter, List.cons_append, Lexer.run, step]
  simp only
  rw [collects.run_append goOn, collects.run_end _ _ fun character given =>
    ends character (restEnds character given), List.reverse_append, List.reverse_reverse]
  rfl

end Collects

/-- A numeral begins with a digit or a minus. -/
theorem yields_numeral {first : Char} {later : List Char}
    (starts : first.isDigit = true ∨ first = '-')
    (numeral : ∀ character ∈ later, isNumeralCharacter character = true) :
    Yields (first :: later) [.numeral (first :: later)] := by
  refine collects_numeral.yields ?_ numeral fun character ends => ends.1
  intro tokens
  rcases starts with isDigit | rfl
  · have bounds := Number.isDigit_iff.mp isDigit
    have notSpace : isSpace first = false := by
      rw [← Bool.not_eq_true]
      intro isSpace
      simp only [Json.isSpace, Bool.or_eq_true, decide_eq_true_eq] at isSpace
      rcases isSpace with ((rfl | rfl) | rfl) | rfl
      all_goals exact absurd bounds (by decide)
    have notQuote : first ≠ '"' := by
      rintro rfl
      exact absurd bounds (by decide)
    simp [Lexer.startToken, notSpace, notQuote, isDigit]
  · rfl

/-- A word has letters only. -/
theorem yields_word (first : Char) (later : List Char)
    (starts : ∀ tokens, Lexer.startToken tokens first = some ⟨.inWord [first], tokens⟩)
    (letters : later.all Char.isAlpha = true) :
    Yields (first :: later) [.word (first :: later)] :=
  collects_word.yields starts (List.all_eq_true.mp letters) fun _ ends => ends.2

theorem run_inHex {character : Char} {digit : Nat} (hex : hexValue? character = some digit)
    (parts : List TextPart) (digits value : Nat) (tokens : List Token) (rest : List Char) :
    Lexer.run ⟨.inHex parts digits value, tokens⟩ (character :: rest) =
      Lexer.run
        (if digits = 3 then ⟨.inText (.unit (16 * value + digit) :: parts), tokens⟩
          else ⟨.inHex parts (digits + 1) (16 * value + digit), tokens⟩) rest := by
  rw [Lexer.run, Lexer.step]
  simp only [hex, Option.map_some]

/-- Between quotes the characters of the parts are one token. -/
theorem yieldsAlways_text {characters : List Char} {parts : List TextPart}
    (run : ∀ before tokens rest,
      Lexer.run ⟨.inText before, tokens⟩ (characters ++ rest) =
        Lexer.run ⟨.inText (parts.reverse ++ before), tokens⟩ rest) :
    YieldsAlways ('"' :: (characters ++ ['"']))
      [.text ((joinParts parts).map String.ofList)] := by
  intro before rest
  have opened : Lexer.step ⟨.between, before⟩ '"' = some ⟨.inText [], before⟩ := rfl
  have closed : Lexer.step ⟨.inText parts.reverse, before⟩ '"' =
      some ⟨.between, .text ((joinParts parts).map String.ofList) :: before⟩ := by
    simp only [Lexer.step, Lexer.continueText, if_true, List.reverse_reverse]
  rw [List.cons_append, List.append_assoc, tokensAfter, Lexer.run, opened]
  simp only
  rw [run, List.append_nil, List.singleton_append, Lexer.run, closed]
  rfl

end AssetSearch.Json

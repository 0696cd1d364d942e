/-
This file cuts a JSON text into its tokens, one character after the other.
-/

namespace AssetSearch.Json

/-- A text token whose escapes do not form characters has no content. -/
inductive Token where
  | openBrace
  | closeBrace
  | openBracket
  | closeBracket
  | colon
  | comma
  | word (letters : List Char)
  | numeral (characters : List Char)
  | text (content : Option String)
  deriving DecidableEq, Repr

/-- A part of a text is a character, or a number of sixteen bits that was written in hex. -/
inductive TextPart where
  | character (character : Char)
  | unit (unit : Nat)
  deriving DecidableEq, Repr

def isHighSurrogate (unit : Nat) : Bool := 0xD800 ≤ unit && unit < 0xDC00

def isLowSurrogate (unit : Nat) : Bool := 0xDC00 ≤ unit && unit < 0xE000

/-- This is the character that a pair of surrogates stands for. -/
def joinSurrogates (high low : Nat) : Char :=
  Char.ofNat (0x10000 + (high - 0xD800) * 0x400 + (low - 0xDC00))

/-- The first surrogate of a pair must be followed by the second one, and none stands alone. -/
def joinParts : List TextPart → Option (List Char)
  | [] => some []
  | .character character :: rest => (joinParts rest).map (character :: ·)
  | .unit unit :: rest =>
      if isHighSurrogate unit then
        match rest with
        | .unit low :: later =>
            if isLowSurrogate low then (joinParts later).map (joinSurrogates unit low :: ·)
            else none
        | _ => none
      else if isLowSurrogate unit then none
      else (joinParts rest).map (Char.ofNat unit :: ·)

/-- The parts that were read so far stand in reverse. -/
inductive LexerMode where
  | between
  | inText (parts : List TextPart)
  | afterBackslash (parts : List TextPart)
  | inHex (parts : List TextPart) (digits value : Nat)
  | inNumeral (characters : List Char)
  | inWord (letters : List Char)
  deriving Repr

/-- The tokens that were read so far stand in reverse. -/
structure Lexer where
  mode : LexerMode
  tokens : List Token
  deriving Repr

def hexValue? (character : Char) : Option Nat :=
  if character.isDigit then some (character.toNat - '0'.toNat)
  else if 'a' ≤ character && character ≤ 'f' then some (character.toNat - 'a'.toNat + 10)
  else if 'A' ≤ character && character ≤ 'F' then some (character.toNat - 'A'.toNat + 10)
  else none

/-- These letters after a backslash stand for one character each. -/
def escapedCharacter? : Char → Option Char
  | '"' => some '"'
  | '\\' => some '\\'
  | '/' => some '/'
  | 'b' => some '\x08'
  | 'f' => some '\x0c'
  | 'n' => some '\n'
  | 'r' => some '\r'
  | 't' => some '\t'
  | _ => none

def isSpace (character : Char) : Bool :=
  character = ' ' || character = '\n' || character = '\r' || character = '\t'

def isNumeralCharacter (character : Char) : Bool :=
  character.isDigit || character = '-' || character = '+' || character = '.' ||
    character = 'e' || character = 'E'

def punctuation? : Char → Option Token
  | '\x7b' => some .openBrace
  | '\x7d' => some .closeBrace
  | '[' => some .openBracket
  | ']' => some .closeBracket
  | ':' => some .colon
  | ',' => some .comma
  | _ => none

/-- A character outside of the other tokens begins one, or is a token, or is passed over. -/
def Lexer.startToken (tokens : List Token) (character : Char) : Option Lexer :=
  if isSpace character then some ⟨.between, tokens⟩
  else if character = '"' then some ⟨.inText [], tokens⟩
  else if character.isDigit || character = '-' then some ⟨.inNumeral [character], tokens⟩
  else if character.isAlpha then some ⟨.inWord [character], tokens⟩
  else (punctuation? character).map fun token => ⟨.between, token :: tokens⟩

/-- A text token holds no bare control character, and ends at a quote without a backslash. -/
def Lexer.continueText (parts : List TextPart) (tokens : List Token) (character : Char) :
    Option Lexer :=
  if character = '"' then
    some ⟨.between, .text ((joinParts parts.reverse).map String.ofList) :: tokens⟩
  else if character = '\\' then some ⟨.afterBackslash parts, tokens⟩
  else if character.toNat < 32 then none
  else some ⟨.inText (.character character :: parts), tokens⟩

def Lexer.step (lexer : Lexer) (character : Char) : Option Lexer :=
  match lexer.mode with
  | .between => startToken lexer.tokens character
  | .inText parts => continueText parts lexer.tokens character
  | .afterBackslash parts =>
      if character = 'u' then some ⟨.inHex parts 0 0, lexer.tokens⟩
      else
        (escapedCharacter? character).map fun escaped =>
          ⟨.inText (.character escaped :: parts), lexer.tokens⟩
  | .inHex parts digits value =>
      (hexValue? character).map fun digit =>
        let value := 16 * value + digit
        if digits = 3 then ⟨.inText (.unit value :: parts), lexer.tokens⟩
        else ⟨.inHex parts (digits + 1) value, lexer.tokens⟩
  | .inNumeral characters =>
      if isNumeralCharacter character then
        some ⟨.inNumeral (character :: characters), lexer.tokens⟩
      else startToken (.numeral characters.reverse :: lexer.tokens) character
  | .inWord letters =>
      if character.isAlpha then some ⟨.inWord (character :: letters), lexer.tokens⟩
      else startToken (.word letters.reverse :: lexer.tokens) character

/-- The end of the input ends numerals and words, and must not be inside of a text. -/
def Lexer.finish (lexer : Lexer) : Option (List Token) :=
  match lexer.mode with
  | .between => some lexer.tokens.reverse
  | .inNumeral characters => some (.numeral characters.reverse :: lexer.tokens).reverse
  | .inWord letters => some (.word letters.reverse :: lexer.tokens).reverse
  | _ => none

def Lexer.run : Lexer → List Char → Option Lexer
  | lexer, [] => some lexer
  | lexer, character :: rest =>
      match lexer.step character with
      | some next => next.run rest
      | none => none

/-- A text that does not consist of tokens has none. -/
def tokens? (characters : List Char) : Option (List Token) :=
  (Lexer.run ⟨.between, []⟩ characters).bind Lexer.finish

end AssetSearch.Json

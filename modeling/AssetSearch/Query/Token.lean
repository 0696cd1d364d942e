/-
This file cuts a query into tokens. Blanks outside double quotes separate tokens, and a quote that
is never closed runs to the last character that is not blank.
-/

import AssetSearch.Text.Blank
import AssetSearch.Text.ByteLength

namespace AssetSearch.Query

open AssetSearch.Text

/-- Positions count the bytes of the encoded query. -/
structure Span where
  start : Nat
  stop : Nat
  deriving DecidableEq, Repr

/-- Characters are dropped until they make up the number of bytes. -/
def dropBytes : Nat → List Char → List Char
  | 0, characters => characters
  | _, [] => []
  | count + 1, character :: rest => dropBytes (count + 1 - character.utf8Size) rest

def takeBytes : Nat → List Char → List Char
  | 0, _ => []
  | _, [] => []
  | count + 1, character :: rest => character :: takeBytes (count + 1 - character.utf8Size) rest

/-- This is the part of the query between the two positions. -/
def Span.slice (span : Span) (query : String) : String :=
  String.ofList (takeBytes (span.stop - span.start) (dropBytes span.start query.toList))

structure Token where
  characters : List Char
  start : Nat
  deriving DecidableEq, Repr

namespace Token

def text (token : Token) : String :=
  String.ofList token.characters

def span (token : Token) : Span :=
  ⟨token.start, token.start + byteLength token.characters⟩

end Token

/-- A run of characters that is empty makes no token. -/
def consToken (characters : List Char) (start : Nat) (tokens : List Token) : List Token :=
  if characters.isEmpty then tokens else ⟨characters, start⟩ :: tokens

/-- The first result continues a token that is open at the position, the second one follows it. -/
def tokensFrom (position : Nat) (quoted : Bool) : List Char → List Char × List Token
  | [] => ([], [])
  | character :: rest =>
      let next := position + character.utf8Size
      if isBlank character && !quoted then
        let (characters, tokens) := tokensFrom next quoted rest
        ([], consToken characters next tokens)
      else
        let (characters, tokens) := tokensFrom next (quoted != (character == '"')) rest
        (character :: characters, tokens)

/-- Blanks at the end of the query belong to no token, also inside an open quote. -/
def tokens (query : List Char) : List Token :=
  let (characters, later) := tokensFrom 0 false (trimEnd query)
  consToken characters 0 later

end AssetSearch.Query

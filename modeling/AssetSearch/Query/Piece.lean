/-
This file sorts the tokens of a query into keyword pairs and free text.
-/

import AssetSearch.Query.Token
import AssetSearch.Query.Vocabulary

namespace AssetSearch.Query

/-- A token is a pair of a recognized keyword and its value, or text that stands for itself. -/
inductive Piece where
  | pair (keyword value : String) (span : Span)
  | text (content : String) (span : Span)
  deriving DecidableEq, Repr

namespace Piece

def span : Piece → Span
  | pair _ _ span => span
  | text _ span => span

def isPair : Piece → Bool
  | pair .. => true
  | text .. => false

end Piece

/-- A leading quote is dropped, together with the quote at the end of the rest if there is one. -/
def unquote : List Char → List Char
  | '"' :: inner => if inner.getLast? = some '"' then inner.dropLast else inner
  | value => value

/-- The first colon separates the name from the value, if there is a colon. -/
def splitAtColon (characters : List Char) : Option (List Char × List Char) :=
  match characters.dropWhile (· != ':') with
  | [] => none
  | _ :: value => some (characters.takeWhile (· != ':'), value)

/-- The name must be in the vocabulary and the text after the colon must not be empty. -/
def Token.pair? (vocabulary : Vocabulary) (token : Token) : Option (String × String) :=
  match splitAtColon token.characters with
  | none => none
  | some (name, value) =>
      if !value.isEmpty && vocabulary.contains (String.ofList name) then
        some (String.ofList name, String.ofList (unquote value))
      else none

def Piece.ofToken (vocabulary : Vocabulary) (token : Token) : Piece :=
  match token.pair? vocabulary with
  | some (keyword, value) => .pair keyword value token.span
  | none => .text token.text token.span

/-- A query without any recognized pair is kept whole. -/
inductive Reading where
  | plain (query : String)
  | pieces (pieces : List Piece)
  deriving DecidableEq, Repr

def Reading.ofQuery (vocabulary : Vocabulary) (query : String) : Reading :=
  let pieces := (tokens query.toList).map (Piece.ofToken vocabulary)
  if pieces.any Piece.isPair then .pieces pieces else .plain query

end AssetSearch.Query

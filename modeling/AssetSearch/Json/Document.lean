/-
This file reads the tokens of a JSON text as a document, which keeps everything as it was written:
numerals by their characters, and the members of objects in order, also those of one name.
-/

import AssetSearch.Json.Token

namespace AssetSearch.Json

/-- Texts and names whose escapes do not form characters have no content. -/
inductive Document where
  | null
  | truth (value : Bool)
  | number (numeral : List Char)
  | text (content : Option String)
  | list (items : List Document)
  | object (members : List (Option String × Document))
  deriving Repr, Inhabited

/-- A container is open while its parts are read, and these stand in reverse. -/
inductive OpenContainer where
  | list (items : List Document)
  | object (members : List (Option String × Document))
  | member (members : List (Option String × Document)) (name : Option String)

/-- This is what may come next. -/
inductive Expectation where
  | value
  | itemOrEnd
  | name
  | nameOrEnd
  | colon
  | commaOrEnd
  | nothing (document : Document)

/-- The innermost open container stands first. -/
structure DocumentReader where
  containers : List OpenContainer
  expectation : Expectation

/-- A finished document becomes a part of the innermost open container. -/
def DocumentReader.place (document : Document) : List OpenContainer → DocumentReader
  | .list items :: outer => ⟨.list (document :: items) :: outer, .commaOrEnd⟩
  | .member members name :: outer => ⟨.object ((name, document) :: members) :: outer, .commaOrEnd⟩
  | containers => ⟨containers, .nothing document⟩

/-- A numeral has no superfluous zero in front, and a digit on each side of its point. -/
def isNumeral (characters : List Char) : Bool :=
  let unsigned := match characters with
    | '-' :: rest => rest
    | _ => characters
  let whole := unsigned.takeWhile Char.isDigit
  let afterWhole := unsigned.dropWhile Char.isDigit
  let (hasFraction, afterFraction) := match afterWhole with
    | '.' :: rest => (!(rest.takeWhile Char.isDigit).isEmpty, rest.dropWhile Char.isDigit)
    | _ => (true, afterWhole)
  let exponentDigits := match afterFraction with
    | mark :: '+' :: rest => if mark = 'e' || mark = 'E' then some rest else none
    | mark :: '-' :: rest => if mark = 'e' || mark = 'E' then some rest else none
    | mark :: rest => if mark = 'e' || mark = 'E' then some rest else none
    | [] => some ['0']
  match exponentDigits with
  | none => false
  | some digits =>
      !whole.isEmpty && (whole.head? != some '0' || whole.length == 1) && hasFraction &&
        !digits.isEmpty && digits.all Char.isDigit

/-- These tokens are documents by themselves. -/
def Token.scalar? : Token → Option Document
  | .word letters =>
      if letters = "null".toList then some .null
      else if letters = "true".toList then some (.truth true)
      else if letters = "false".toList then some (.truth false)
      else none
  | .numeral characters => if isNumeral characters then some (.number characters) else none
  | .text content => some (.text content)
  | _ => none

namespace DocumentReader

def readValue (containers : List OpenContainer) : Token → Option DocumentReader
  | .openBracket => some ⟨.list [] :: containers, .itemOrEnd⟩
  | .openBrace => some ⟨.object [] :: containers, .nameOrEnd⟩
  | token => token.scalar?.map fun document => place document containers

def readName (containers : List OpenContainer) (token : Token) : Option DocumentReader :=
  match token, containers with
  | .text name, .object members :: outer => some ⟨.member members name :: outer, .colon⟩
  | _, _ => none

/-- The closing mark must fit the innermost container. -/
def readEnd (containers : List OpenContainer) (token : Token) : Option DocumentReader :=
  match token, containers with
  | .closeBracket, .list items :: outer => some (place (.list items.reverse) outer)
  | .closeBrace, .object members :: outer => some (place (.object members.reverse) outer)
  | _, _ => none

/-- After a comma a list needs a value and an object needs a name. -/
def readComma (containers : List OpenContainer) : Option DocumentReader :=
  match containers with
  | .list _ :: _ => some ⟨containers, .value⟩
  | .object _ :: _ => some ⟨containers, .name⟩
  | _ => none

def step (reader : DocumentReader) (token : Token) : Option DocumentReader :=
  match reader.expectation with
  | .value => readValue reader.containers token
  | .itemOrEnd =>
      if token = .closeBracket then readEnd reader.containers token
      else readValue reader.containers token
  | .name => readName reader.containers token
  | .nameOrEnd =>
      if token = .closeBrace then readEnd reader.containers token
      else readName reader.containers token
  | .colon => if token = .colon then some ⟨reader.containers, .value⟩ else none
  | .commaOrEnd =>
      if token = .comma then readComma reader.containers else readEnd reader.containers token
  | .nothing _ => none

def run : DocumentReader → List Token → Option DocumentReader
  | reader, [] => some reader
  | reader, token :: rest =>
      match reader.step token with
      | some next => next.run rest
      | none => none

end DocumentReader

/-- The tokens must form one document and nothing else. -/
def Document.ofTokens? (tokens : List Token) : Option Document :=
  match DocumentReader.run ⟨[], .value⟩ tokens with
  | some ⟨[], .nothing document⟩ => some document
  | _ => none

def Document.ofText? (text : String) : Option Document :=
  (tokens? text.toList).bind Document.ofTokens?

end AssetSearch.Json

/-
This file holds values of the data format JSON and writes them, on one line or indented.
-/

import AssetSearch.Number.Shortest

namespace AssetSearch.Json

/-- A number is an integer, or it is real and keeps its sign also when it is zero. -/
inductive JsonNumber where
  | integer (value : Int)
  | real (negative : Bool) (magnitude : Rat)
  deriving DecidableEq, Repr

def JsonNumber.text : JsonNumber → String
  | integer value => toString value
  | real negative magnitude => Number.realText negative magnitude

/-- The members of an object are kept in the order in which they are written. -/
inductive Value where
  | null
  | truth (value : Bool)
  | number (value : JsonNumber)
  | text (content : String)
  | list (items : List Value)
  | object (members : List (String × Value))
  deriving Repr, Inhabited

namespace Value

def ofNat (value : Nat) : Value := number (.integer value)

def ofInt (value : Int) : Value := number (.integer value)

/-- An absent value is written as null. -/
def ofOption {Content : Type} (encode : Content → Value) : Option Content → Value
  | some content => encode content
  | none => null

def ofList {Content : Type} (encode : Content → Value) (contents : List Content) : Value :=
  list (contents.map encode)

/-- A member whose value is absent is left out. -/
def memberIfPresent {Content : Type} (name : String) (encode : Content → Value) :
    Option Content → List (String × Value)
  | some content => [(name, encode content)]
  | none => []

end Value

/-- Quotes, backslashes and control characters are escaped, the common ones by a letter. -/
def escapeCharacter (character : Char) : List Char :=
  match character with
  | '"' => ['\\', '"']
  | '\\' => ['\\', '\\']
  | '\n' => ['\\', 'n']
  | '\r' => ['\\', 'r']
  | '\t' => ['\\', 't']
  | '\x08' => ['\\', 'b']
  | '\x0c' => ['\\', 'f']
  | _ =>
      if character.toNat < 32 then
        ['\\', 'u', '0', '0', Nat.digitChar (character.toNat / 16),
          Nat.digitChar (character.toNat % 16)]
      else [character]

def quotedText (content : String) : String :=
  String.ofList ('"' :: content.toList.flatMap escapeCharacter ++ ['"'])

/-- The layout says what stands between the parts of a value. -/
structure Layout where
  lineBreak : Nat → String
  afterColon : String

/-- Nothing stands between the parts. -/
def Layout.compact : Layout := ⟨fun _ => "", ""⟩

/-- Every item has a line of its own, two spaces further in than its container. -/
def Layout.indented : Layout :=
  ⟨fun depth => String.ofList ('\n' :: List.replicate (2 * depth) ' '), " "⟩

/-- The parts stand between the brackets, and an empty container has no line breaks. -/
def enclose (layout : Layout) (depth : Nat) (first last : String) (parts : List String) : String :=
  if parts.isEmpty then first ++ last
  else
    first ++ layout.lineBreak (depth + 1) ++
      String.intercalate ("," ++ layout.lineBreak (depth + 1)) parts ++
      layout.lineBreak depth ++ last

mutual

def Value.write (layout : Layout) (depth : Nat) : Value → String
  | .null => "null"
  | .truth value => if value then "true" else "false"
  | .number value => value.text
  | .text content => quotedText content
  | .list items => enclose layout depth "[" "]" (writeItems layout (depth + 1) items)
  | .object members =>
      enclose layout depth "\x7b" "\x7d" (writeMembers layout (depth + 1) members)

def writeItems (layout : Layout) (depth : Nat) : List Value → List String
  | [] => []
  | item :: later => item.write layout depth :: writeItems layout depth later

def writeMembers (layout : Layout) (depth : Nat) : List (String × Value) → List String
  | [] => []
  | member :: later => writeMember layout depth member :: writeMembers layout depth later

def writeMember (layout : Layout) (depth : Nat) : String × Value → String
  | (name, value) => quotedText name ++ ":" ++ layout.afterColon ++ value.write layout depth

end

/-- This is the text of a value on one line. -/
def Value.compactText (value : Value) : String := value.write .compact 0

/-- This is the indented text of a value. -/
def Value.indentedText (value : Value) : String := value.write .indented 0

end AssetSearch.Json

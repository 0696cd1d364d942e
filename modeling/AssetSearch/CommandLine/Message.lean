/-
This file writes requests as messages and reads answers from the bytes of a connection.
-/

import AssetSearch.Network.Address
import AssetSearch.Network.Client
import AssetSearch.Text.Blank

namespace AssetSearch.CommandLine

open AssetSearch.Json
open AssetSearch.Network

/-- The target is what the address says about the place on the server. -/
def requestTarget (address : Address) : String := address.pathText ++ address.queryText

def requestBody (request : Request) : String :=
  match request.body with
  | none => ""
  | some value => value.compactText

/-- A body comes with its type and its length in bytes. -/
def requestHeaders (address : Address) (request : Request) : List (String × String) :=
  (request.authorization.toList.map fun value => ("authorization", value)) ++
    [("user-agent", userAgent), ("accept", "*/*"),
      ("host", address.hostText ++ address.portText), ("connection", "close")] ++
    if request.body.isNone then []
    else
      [("content-type", "application/json"),
        ("content-length", toString (requestBody request).utf8ByteSize)]

/-- An empty line stands between the headers and the body. -/
def requestMessage (address : Address) (request : Request) : String :=
  request.method.name ++ " " ++ requestTarget address ++ " HTTP/1.1\r\n" ++
    String.join ((requestHeaders address request).map fun (name, value) =>
      name ++ ": " ++ value ++ "\r\n") ++
    "\r\n" ++ requestBody request

/-- The head of an answer has a status and headers, whose names are in small letters. -/
structure Head where
  status : Nat
  headers : List (String × String)
  deriving DecidableEq, Repr

/-- Lines end with a line feed, and the first empty line ends them all. -/
def readLines? (lines : List (List Char)) (reversedLine : List Char) :
    List UInt8 → Option (List (List Char) × List UInt8)
  | [] => none
  | byte :: rest =>
      if byte = 10 then
        match reversedLine.dropWhile (· == '\r') with
        | [] => some (lines.reverse, rest)
        | reversed => readLines? (reversed.reverse :: lines) [] rest
      else readLines? lines (Char.ofNat byte.toNat :: reversedLine) rest

def smallLetters (text : List Char) : List Char := text.map Char.toLower

/-- A name and its value stand before and after the first colon. -/
def readHeader? (line : List Char) : Option (String × String) :=
  let name := line.takeWhile (· != ':')
  if name.isEmpty || name.length = line.length then none
  else
    some (String.ofList (smallLetters name),
      String.ofList (Text.trim (line.drop (name.length + 1))))

/-- The status is the second word of the first line and has three digits. -/
def readStatus? (line : List Char) : Option Nat :=
  let version := line.takeWhile (· != ' ')
  let status := (line.drop (version.length + 1)).takeWhile (· != ' ')
  if "HTTP/1.".toList.isPrefixOf version && status.length = 3 && status.all Char.isDigit then
    some (Number.ofDigits status)
  else none

namespace Head

def ofLines? : List (List Char) → Option Head
  | [] => none
  | first :: later => do
      let status ← readStatus? first
      let headers ← later.mapM readHeader?
      return ⟨status, headers⟩

def header? (head : Head) (name : String) : Option String := head.headers.lookup name

/-- Another head follows that of an interim answer, unless the protocol is switched. -/
def isInterim (head : Head) : Bool := head.status / 100 = 1 && head.status != 101

end Head

/-- The head of an answer is incomplete, malformed, or there with what follows it. -/
inductive HeadReading where
  | incomplete
  | malformed
  | found (head : Head) (rest : List UInt8)
  deriving DecidableEq, Repr

/-- Interim answers are passed over. Each of them has at least one byte. -/
def readHeadFrom : (limit : Nat) → List UInt8 → HeadReading
  | 0, _ => .incomplete
  | limit + 1, bytes =>
      match readLines? [] [] bytes with
      | none => .incomplete
      | some (lines, rest) =>
          match Head.ofLines? lines with
          | none => .malformed
          | some head => if head.isInterim then readHeadFrom limit rest else .found head rest

def readHead (bytes : List UInt8) : HeadReading := readHeadFrom (bytes.length + 1) bytes

/-- A body ends after a number of bytes, after the last of its chunks, or with the connection. -/
inductive Framing where
  | counted (bytes : Nat)
  | chunked
  | untilClosed
  deriving DecidableEq, Repr

def Head.isChunked (head : Head) : Bool :=
  match head.header? "transfer-encoding" with
  | none => false
  | some coding => smallLetters coding.toList = "chunked".toList

def Head.framing (head : Head) : Framing :=
  if head.status = 204 || head.status = 304 then .counted 0
  else if head.isChunked then .chunked
  else
    match (head.header? "content-length").bind fun text => readDigits? 10 text.toList with
    | some bytes => .counted bytes
    | none => .untilClosed

/-- A reader of chunks is inside of a size, behind it, inside of the data, or behind them. -/
inductive ChunkPlace where
  | size (value : Nat)
  | extension (size : Nat)
  | data (left : Nat)
  | afterData
  deriving DecidableEq, Repr

/-- A chunk without data is the last one. -/
def readChunks? (reversedData : List UInt8) : ChunkPlace → List UInt8 → Option (List UInt8)
  | _, [] => none
  | .afterData, byte :: rest =>
      readChunks? reversedData (if byte = 10 then .size 0 else .afterData) rest
  | .data left, byte :: rest =>
      readChunks? (byte :: reversedData) (if left ≤ 1 then .afterData else .data (left - 1)) rest
  | .extension size, byte :: rest =>
      if byte != 10 then readChunks? reversedData (.extension size) rest
      else if size = 0 then some reversedData.reverse
      else readChunks? reversedData (.data size) rest
  | .size value, byte :: rest =>
      match upperHexValue? (Char.ofNat byte.toNat) with
      | some digit => readChunks? reversedData (.size (16 * value + digit)) rest
      | none =>
          if byte != 10 then readChunks? reversedData (.extension value) rest
          else if value = 0 then some reversedData.reverse
          else readChunks? reversedData (.data value) rest

/-- Bytes that are no text are treated like a body that is cut off. -/
def bodyOfBytes (bytes : List UInt8) : Body :=
  match String.fromUTF8? (ByteArray.mk bytes.toArray) with
  | some text => .complete text
  | none => .cutOff

/-- These are the bytes of a whole body. -/
def Framing.whole? (framing : Framing) (isClosed : Bool) (bytes : List UInt8) :
    Option (List UInt8) :=
  match framing with
  | .counted count => if count ≤ bytes.length then some (bytes.take count) else none
  | .chunked => readChunks? [] (.size 0) bytes
  | .untilClosed => if isClosed then some bytes else none

/-- More bytes are needed unless the body is whole or nothing more will come. -/
def Framing.readBody? (framing : Framing) (isClosed : Bool) (bytes : List UInt8) : Option Body :=
  match framing.whole? isClosed bytes with
  | some whole => some (bodyOfBytes whole)
  | none => if isClosed then some .cutOff else none

def Head.answer (head : Head) (body : Body) : Exchange :=
  .answered ⟨head.status, head.header? "retry-after", body⟩

/-- The exchange has an end when the bytes hold an answer, or when nothing more will come. -/
def readAnswer? (isClosed : Bool) (bytes : List UInt8) : Option Exchange :=
  match readHead bytes with
  | .incomplete => if isClosed then some .lost else none
  | .malformed => some .lost
  | .found head rest => (head.framing.readBody? isClosed rest).map head.answer

/-- When the time is up, an answer that has begun counts as cut off. -/
def answerAtTimeout (bytes : List UInt8) : Exchange :=
  match readHead bytes with
  | .incomplete | .malformed => .timedOut
  | .found head _ => head.answer .cutOff

end AssetSearch.CommandLine

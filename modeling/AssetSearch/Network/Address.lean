/-
This file reads addresses of services and writes them in their normal form. Programs run with this
reader of addresses, while nothing that is proved about them depends on it.
-/

import AssetSearch.Network.Host
import AssetSearch.Network.Url

namespace AssetSearch.Network

/-- A path is a plain text, or it is a list of segments. -/
inductive AddressPath where
  | plain (text : String)
  | segments (segments : List String)
  deriving DecidableEq, Repr

/-- These are all parts of an address. -/
structure Address where
  scheme : String
  username : String
  password : String
  host : Option Host
  port : Option Nat
  path : AddressPath
  query : Option String
  fragment : Option String
  deriving DecidableEq, Repr

namespace Address

inductive SchemeKind where
  | file
  | wellKnown
  | other
  deriving DecidableEq, Repr

def schemeKind (scheme : String) : SchemeKind :=
  if scheme = "file" then .file
  else if ["http", "https", "ws", "wss", "ftp"].contains scheme then .wellKnown
  else .other

/-- This port is not written. -/
def defaultPort? (scheme : String) : Option Nat :=
  if scheme = "http" || scheme = "ws" then some 80
  else if scheme = "https" || scheme = "wss" then some 443
  else if scheme = "ftp" then some 21
  else none

/-- Control characters and everything beyond the basic characters are encoded everywhere. -/
def isAlwaysEncoded (character : Char) : Bool :=
  character.toNat < 0x20 || 0x7F ≤ character.toNat

def isEncodedInFragment (character : Char) : Bool :=
  isAlwaysEncoded character || [' ', '"', '<', '>', '\x60'].contains character

def isEncodedInPath (character : Char) : Bool :=
  isEncodedInFragment character || ['#', '?', '\x7b', '\x7d'].contains character

def isEncodedInUserinfo (character : Char) : Bool :=
  isEncodedInPath character || "/:;=@[\\]^|".toList.contains character

/-- The well known schemes encode the apostrophe too. -/
def isEncodedInQuery (kind : SchemeKind) (character : Char) : Bool :=
  isAlwaysEncoded character || [' ', '"', '#', '<', '>'].contains character ||
    (kind != .other && character = '\x27')

/-- A backslash is a slash in the well known schemes. -/
def isSlash (kind : SchemeKind) (character : Char) : Bool :=
  character = '/' || (kind != .other && character = '\\')

def endsAuthority (kind : SchemeKind) (character : Char) : Bool :=
  isSlash kind character || character = '?' || character = '#'

/-- Blanks and control characters at the ends are dropped, and some controls everywhere. -/
def cleaned (text : List Char) : List Char :=
  let isOuter (character : Char) : Bool := character.toNat ≤ 0x20
  let trimmed := ((text.dropWhile isOuter).reverse.dropWhile isOuter).reverse
  trimmed.filter fun character => character != '\t' && character != '\n' && character != '\r'

def isSchemeCharacter (character : Char) : Bool :=
  character.isAlphanum || character = '+' || character = '-' || character = '.'

/-- The scheme begins with a letter and ends at the first colon. -/
def splitScheme (text : List Char) : Option (String × List Char) :=
  let scheme := text.takeWhile isSchemeCharacter
  match scheme.head?, text.drop scheme.length with
  | some first, ':' :: rest =>
      if first.isAlpha then some (String.ofList (scheme.map Char.toLower), rest) else none
  | _, _ => none

/-- The text before and after the last occurrence of the separator. -/
def splitAtLast (separator : Char) (text : List Char) : Option (List Char × List Char) :=
  if text.contains separator then
    let reversed := text.reverse
    some ((reversed.dropWhile (· != separator)).drop 1 |>.reverse,
      (reversed.takeWhile (· != separator)).reverse)
  else none

def encodeUserinfo (text : List Char) : String :=
  String.ofList (percentEncode isEncodedInUserinfo text)

/-- The first colon separates the name of a user from the password. -/
def readUserinfo (text : List Char) : String × String :=
  (encodeUserinfo (text.takeWhile (· != ':')),
    encodeUserinfo ((text.dropWhile (· != ':')).drop 1))

/-- Colons inside of brackets belong to the host. -/
def hostLength : (insideBrackets : Bool) → List Char → Nat
  | _, [] => 0
  | insideBrackets, character :: rest =>
      if character = ':' && !insideBrackets then 0
      else if character = '[' then 1 + hostLength true rest
      else if character = ']' then 1 + hostLength false rest
      else 1 + hostLength insideBrackets rest

/-- Without digits, or with those of the default, there is no port. -/
def readPort (scheme : String) (digits : List Char) : Except AddressFault (Option Nat) :=
  let significant := digits.dropWhile (· == '0')
  if !digits.all Char.isDigit || 5 < significant.length then .error .invalidPort
  else
    match readDigits? 10 significant with
    | none => .error .invalidPort
    | some port =>
        if 65535 < port then .error .invalidPort
        else if digits.isEmpty || defaultPort? scheme = some port then .ok none
        else .ok (some port)

/-- A port has no host to belong to if the host is empty. -/
def readHost (scheme : String) (text : List Char) (hasUserinfo hasPort : Bool) :
    Except AddressFault (Option Host) :=
  match schemeKind scheme with
  | .other =>
      if text.isEmpty then
        if hasUserinfo || hasPort then .error .emptyHost else .ok (some (.domain ""))
      else (Host.readOpaque text).map some
  | _ => if text.isEmpty then .error .emptyHost else (Host.read text).map some

/-- The authority names a user, a host and a port. -/
structure Authority where
  username : String
  password : String
  host : Option Host
  port : Option Nat

def readAuthority (scheme : String) (text : List Char) : Except AddressFault Authority := do
  let (username, password, place) := match splitAtLast '@' text with
    | some (userinfo, place) =>
        let (username, password) := readUserinfo userinfo
        (username, password, place)
    | none => ("", "", text)
  let hostText := place.take (hostLength false place)
  let hasUserinfo := !username.isEmpty || !password.isEmpty
  let portText := place.drop hostText.length
  let host ← readHost scheme hostText hasUserinfo (!portText.isEmpty)
  let port ← readPort scheme (portText.drop 1)
  return ⟨username, password, host, port⟩

/-- A dot may be written as its percent code. -/
def isSingleDot (segment : String) : Bool :=
  [".", "%2e", "%2E"].contains segment

def isDoubleDot (segment : String) : Bool :=
  ["..", "%2e%2e", "%2e%2E", "%2E%2e", "%2E%2E", "%2e.", "%2E.", ".%2e", ".%2E"].contains segment

/-- A letter and a colon or a bar name a drive. -/
def isDriveLetter (segment : String) : Bool :=
  match segment.toList with
  | [letter, mark] => letter.isAlpha && (mark = ':' || mark = '|')
  | _ => false

/-- A drive at the start of the path of a file cannot be left. -/
def dropSegment (kind : SchemeKind) (reversed : List String) : List String :=
  match reversed with
  | [drive] => if kind = .file && isDriveLetter drive then reversed else []
  | _ => reversed.drop 1

def normalizeDrive (kind : SchemeKind) (reversed : List String) (segment : String) : String :=
  if kind = .file && reversed.isEmpty && isDriveLetter segment then
    String.ofList (segment.toList.take 1) ++ ":"
  else segment

/-- Segments of dots are resolved, and leave an empty segment at the end of a path. -/
def resolveSegments (kind : SchemeKind) (reversed : List String) : List String → List String
  | [] => reversed.reverse
  | segment :: later =>
      let withEnd (segments : List String) : List String :=
        if later.isEmpty then "" :: segments else segments
      if isDoubleDot segment then
        resolveSegments kind (withEnd (dropSegment kind reversed)) later
      else if isSingleDot segment then resolveSegments kind (withEnd reversed) later
      else resolveSegments kind (normalizeDrive kind reversed segment :: reversed) later

/-- The segments of a path stand between its slashes, without the leading one. -/
def readSegments (kind : SchemeKind) (path : List Char) : List String :=
  resolveSegments kind [] ((path.splitOnP (isSlash kind)).map fun segment =>
    String.ofList (percentEncode isEncodedInPath segment))

/-- The well known schemes have at least one segment. -/
def readPath (kind : SchemeKind) (path : List Char) : AddressPath :=
  match path with
  | [] => if kind = .other then .segments [] else .segments [""]
  | first :: rest =>
      if isSlash kind first then .segments (readSegments kind rest)
      else .segments (readSegments kind path)

/-- The path ends before the query and the fragment. -/
def splitPath (text : List Char) : List Char × List Char :=
  (text.takeWhile fun character => character != '?' && character != '#',
    text.dropWhile fun character => character != '?' && character != '#')

def readFragment : List Char → Option String
  | '#' :: rest => some (String.ofList (percentEncode isEncodedInFragment rest))
  | _ => none

/-- A query ends where the fragment begins. -/
def readQuery (kind : SchemeKind) : List Char → Option String × Option String
  | '?' :: rest =>
      let query := rest.takeWhile (· != '#')
      (some (String.ofList (percentEncode (isEncodedInQuery kind) query)),
        readFragment (rest.dropWhile (· != '#')))
  | rest => (none, readFragment rest)

/-- The authority ends where the path begins. -/
def ofAuthorityText (scheme : String) (text : List Char) : Except AddressFault Address := do
  let kind := schemeKind scheme
  let authorityText := text.takeWhile fun character => !endsAuthority kind character
  let authority ← readAuthority scheme authorityText
  let afterAuthority := text.drop authorityText.length
  if authorityText == ['@'] && !afterAuthority.isEmpty then throw .emptyHost
  let (path, rest) := splitPath afterAuthority
  let (query, fragment) := readQuery kind rest
  return ⟨scheme, authority.username, authority.password, authority.host, authority.port,
    readPath kind path, query, fragment⟩

/-- The host of a file may be missing, and the local one is not named. -/
def readFileHost (text : List Char) : Except AddressFault (Option Host) :=
  if text.isEmpty then .ok none
  else
    (Host.read text).map fun host => if host = .domain "localhost" then none else some host

def beginsWithDrive : AddressPath → Bool
  | .segments (first :: _) => isDriveLetter first
  | _ => false

/-- A drive in the place of the host is the start of the path, and a drive has no host. -/
def ofFileText (text : List Char) : Except AddressFault Address := do
  let slashes := text.takeWhile (isSlash .file)
  let afterSlashes := text.drop 2
  let hostText := afterSlashes.takeWhile fun character => !endsAuthority .file character
  let hasHost := 2 ≤ slashes.length && !isDriveLetter (String.ofList hostText)
  let host ← if hasHost then readFileHost hostText else .ok none
  let pathText :=
    if hasHost then afterSlashes.drop hostText.length
    else if 2 ≤ slashes.length then afterSlashes
    else text
  let (path, rest) := splitPath pathText
  let (query, fragment) := readQuery .file rest
  let path := readPath .file path
  let host := if beginsWithDrive path then none else host
  return ⟨"file", "", "", host, none, path, query, fragment⟩

/-- Without an authority the path is a plain text unless it begins with a slash. -/
def ofPathText (scheme : String) (text : List Char) : Address :=
  let (path, rest) := splitPath text
  let (query, fragment) := readQuery .other rest
  let readPath := match path with
    | '/' :: segments => .segments (readSegments .other segments)
    | _ => .plain (String.ofList (percentEncode isAlwaysEncoded path))
  ⟨scheme, "", "", none, none, readPath, query, fragment⟩

def ofOtherText (scheme : String) : List Char → Except AddressFault Address
  | '/' :: '/' :: rest => ofAuthorityText scheme rest
  | text => .ok (ofPathText scheme text)

/-- The well known schemes do not count the slashes before the authority. -/
def ofText (text : String) : Except AddressFault Address :=
  match splitScheme (cleaned text.toList) with
  | none => .error .relativeWithoutBase
  | some (scheme, rest) =>
      match schemeKind scheme with
      | .file => ofFileText rest
      | .wellKnown => ofAuthorityText scheme (rest.dropWhile (isSlash .wellKnown))
      | .other => ofOtherText scheme rest

/-- A plain text is no base for other paths. -/
def isBase (address : Address) : Bool :=
  match address.path with
  | .plain _ => false
  | .segments _ => true

/-- The password stands after a colon and the pair before an at sign. -/
def userinfoText (address : Address) : String :=
  if address.username.isEmpty && address.password.isEmpty then ""
  else if address.password.isEmpty then address.username ++ "@"
  else address.username ++ ":" ++ address.password ++ "@"

def hostText (address : Address) : String :=
  match address.host with
  | none => ""
  | some host => host.text

def portText (address : Address) : String :=
  match address.port with
  | none => ""
  | some port => ":" ++ toString port

/-- Files are written with an authority also when it is empty. -/
def authorityText (address : Address) : String :=
  if address.host.isSome || address.scheme = "file" then
    "//" ++ address.userinfoText ++ address.hostText ++ address.portText
  else ""

def segmentsText (segments : List String) : String :=
  String.join (segments.map fun segment => "/" ++ segment)

/-- A path whose first segment is empty must not look like an authority. -/
def pathText (address : Address) : String :=
  match address.path with
  | .plain text => text
  | .segments segments =>
      if address.authorityText.isEmpty && segments.head? = some "" && 1 < segments.length then
        "/." ++ segmentsText segments
      else segmentsText segments

def queryText (address : Address) : String :=
  match address.query with
  | none => ""
  | some query => "?" ++ query

def fragmentText (address : Address) : String :=
  match address.fragment with
  | none => ""
  | some fragment => "#" ++ fragment

/-- This is the normal form of an address that is a base. -/
def text (address : Address) : String :=
  address.scheme ++ ":" ++ address.authorityText ++ address.pathText ++ address.queryText ++
    address.fragmentText

def withoutUserinfo (address : Address) : Address :=
  { address with username := "", password := "" }

def url (address : Address) : Url where
  text := address.text
  textWithoutUserinfo := address.withoutUserinfo.text
  scheme := address.scheme
  host := address.host.map Host.text
  isBase := address.isBase

end Address

instance : UrlParser where
  parse text :=
    match Address.ofText text with
    | .error fault => .error fault.message
    | .ok address => .ok address.url

end AssetSearch.Network

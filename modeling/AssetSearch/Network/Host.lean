/-
This file reads and writes the hosts of addresses: domain names, numbers of four bytes, and numbers
of eight groups.
-/

import AssetSearch.Network.DomainName

namespace AssetSearch.Network

inductive AddressFault where
  | relativeWithoutBase
  | emptyHost
  | invalidPort
  | invalidFourByteAddress
  | invalidEightGroupAddress
  | invalidDomainCharacter
  | invalidInternationalName
  deriving DecidableEq, Repr

def AddressFault.message : AddressFault → String
  | relativeWithoutBase => "relative URL without a base"
  | emptyHost => "empty host"
  | invalidPort => "invalid port number"
  | invalidFourByteAddress => "invalid IPv4 address"
  | invalidEightGroupAddress => "invalid IPv6 address"
  | invalidDomainCharacter => "invalid domain character"
  | invalidInternationalName => "invalid international domain name"

inductive Host where
  | domain (name : String)
  | fourBytes (address : Nat)
  | eightGroups (groups : List Nat)
  deriving DecidableEq, Repr

def readDigits? (base : Nat) (digits : List Char) : Option Nat :=
  digits.foldlM (fun value digit =>
    (upperHexValue? digit).bind fun digitValue =>
      if digitValue < base then some (base * value + digitValue) else none) 0

/-- A leading zero, or a zero and the letter x, selects the base eight or sixteen. -/
def addressNumber? : List Char → Option Nat
  | [] => none
  | '0' :: 'x' :: digits => readDigits? 16 digits
  | '0' :: 'X' :: digits => readDigits? 16 digits
  | ['0'] => some 0
  | '0' :: digits => readDigits? 8 digits
  | digits => readDigits? 10 digits

/-- One empty part may stand at the end. -/
def addressParts (name : List Char) : List (List Char) :=
  let parts := name.splitOn '.'
  if parts.getLast? = some [] then parts.dropLast else parts

/-- A name whose last part is a number can only be an address. -/
def endsInNumber (name : List Char) : Bool :=
  match (addressParts name).getLast? with
  | none => false
  | some last => (!last.isEmpty && last.all Char.isDigit) || (addressNumber? last).isSome

/-- All parts but the last are bytes, and the last one fills the rest of the address. -/
def readFourBytes? (name : List Char) : Option Nat := do
  let numbers ← (addressParts name).mapM addressNumber?
  let last ← numbers.getLast?
  let leading := numbers.dropLast
  let span := Nat.pow 256 (4 - leading.length)
  if 3 < leading.length || leading.any (255 < ·) || span ≤ last then none
  else some (leading.foldl (fun address byte => 256 * address + byte) 0 * span + last)

/-- A group has one to four digits. -/
def readGroup? (digits : List Char) : Option Nat :=
  if digits.isEmpty || 4 < digits.length then none else readDigits? 16 digits

/-- A byte has no superfluous zero in front. -/
def readByte? (digits : List Char) : Option Nat :=
  if digits.isEmpty || (digits.head? = some '0' && digits.length ≠ 1) then none
  else
    match readDigits? 10 digits with
    | some value => if value ≤ 255 then some value else none
    | none => none

/-- Four bytes may be written in the place of the last two groups. -/
def readLastGroups? (text : List Char) : Option (List Nat) :=
  if text.contains '.' then
    match (text.splitOn '.').mapM readByte? with
    | some [first, second, third, fourth] => some [256 * first + second, 256 * third + fourth]
    | _ => none
  else (readGroup? text).map fun group => [group]

/-- Groups are separated by colons. -/
def readGroups? : List (List Char) → Option (List Nat)
  | [] => some []
  | [last] => readLastGroups? last
  | first :: later => do
      let group ← readGroup? first
      let groups ← readGroups? later
      return group :: groups

def readGroupText? (text : List Char) : Option (List Nat) :=
  if text.isEmpty then some [] else readGroups? (text.splitOn ':')

/-- The text before and after the first pair of colons, if there is one. -/
def splitAtGap : List Char → Option (List Char × List Char)
  | ':' :: ':' :: rest => some ([], rest)
  | character :: rest => (splitAtGap rest).map fun (before, after) => (character :: before, after)
  | [] => none

/-- A pair of colons stands for the groups that are missing, of which there is at least one. -/
def readEightGroups? (text : List Char) : Option (List Nat) :=
  match splitAtGap text with
  | none => do
      let groups ← readGroupText? text
      if groups.length = 8 then some groups else none
  | some (before, after) => do
      if before.contains '.' then none
      let leading ← readGroupText? before
      let trailing ← readGroupText? after
      if leading.length + trailing.length < 8 then
        some (leading ++ List.replicate (8 - leading.length - trailing.length) 0 ++ trailing)
      else none

/-- This is the number of zero groups that the list begins with. -/
def leadingZeros (groups : List Nat) : Nat :=
  (groups.takeWhile (· == 0)).length

/-- The longest run of zero groups, the first of equals, is at this place with this length. -/
def longestZeroRun (groups : List Nat) : Nat × Nat :=
  let runs := (List.range 8).map fun index => (index, leadingZeros (groups.drop index))
  runs.foldl (fun best run => if best.2 < run.2 then run else best) (0, 0)

def groupsText (groups : List Nat) : String :=
  String.intercalate ":" (groups.map fun group => String.ofList (Nat.toDigits 16 group))

/-- A run of two or more zero groups is left out. -/
def eightGroupsText (groups : List Nat) : String :=
  let (start, length) := longestZeroRun groups
  if length < 2 then groupsText groups
  else groupsText (groups.take start) ++ "::" ++ groupsText (groups.drop (start + length))

namespace Host

def text : Host → String
  | .domain name => name
  | .fourBytes address =>
      String.intercalate "." ([3, 2, 1, 0].map fun index =>
        toString (address / Nat.pow 256 index % 256))
  | .eightGroups groups => "[" ++ eightGroupsText groups ++ "]"

/-- Eight groups stand in brackets. -/
def readBracketed (text : List Char) : Except AddressFault Host :=
  if text.getLast? = some ']' then
    match readEightGroups? (text.drop 1).dropLast with
    | some groups => .ok (eightGroups groups)
    | none => .error .invalidEightGroupAddress
  else .error .invalidEightGroupAddress

def readName (name : String) : Except AddressFault Host :=
  if name.isEmpty then .error .emptyHost
  else if endsInNumber name.toList then
    match readFourBytes? name.toList with
    | some address => .ok (fourBytes address)
    | none => .error .invalidFourByteAddress
  else .ok (domain name)

/-- The hosts of the well known schemes are names that can be looked up, or numbers. -/
def read (text : List Char) : Except AddressFault Host :=
  if text.head? = some '[' then readBracketed text
  else
    match (decodedText? text).bind DomainName.normalize? with
    | some name => readName name
    | none => .error .invalidInternationalName

def isForbiddenInOpaque (character : Char) : Bool :=
  "\x00\t\n\r #/:<>?@[\\]^|".toList.contains character

def isControl (character : Char) : Bool :=
  character.toNat < 0x20 || 0x7F ≤ character.toNat

/-- The hosts of other schemes are kept, with control characters encoded. -/
def readOpaque (text : List Char) : Except AddressFault Host :=
  if text.head? = some '[' then readBracketed text
  else if text.any isForbiddenInOpaque then .error .invalidDomainCharacter
  else .ok (domain (String.ofList (percentEncode isControl text)))

end Host

end AssetSearch.Network

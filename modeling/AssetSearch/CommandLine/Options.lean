/-
This file holds the commands of the program and reads them from the words of a command line.
-/

import AssetSearch.CommandLine.Arguments
import AssetSearch.Failure
import AssetSearch.Number.Numeral

namespace AssetSearch.CommandLine

/-- These options can stand before and after the name of a command. -/
structure Settings where
  url : String
  apiKey : Option String
  catalog : Option String
  leading : String
  isVerbose : Bool
  deriving DecidableEq, Repr

inductive Command where
  | compile (query : String) (keywords : List String)
  | search (team query : String) (limit : Nat) (planOnly : Bool)
  | tasks (team : String)
  | watch (team : String) (interval : Nat)
  | rebuild (team : String)
  | fields (team : String)
  | addField (team name fieldType : String)
  | renameField (id name : String)
  | removeField (id : String)
  deriving DecidableEq, Repr

structure Invocation where
  settings : Settings
  command : Command
  deriving DecidableEq, Repr

/-- Settings that no option gives are taken from here. -/
structure Environment where
  url : Option String
  apiKey : Option String
  deriving DecidableEq, Repr

def defaultUrl : String := "http://127.0.0.1:7700"

/-- A search asks each index for this many hits. -/
def defaultSearchLimit : Nat := 20

/-- A watcher waits for this many milliseconds between two listings. -/
def defaultInterval : Nat := 2000

/-- This word asks for help in the place of a command. -/
def helpWord : String := "help"

/-- Counts of hits have 32 bits, and intervals have 64. -/
def largestLimit : Nat := Nat.pow 2 32 - 1

def largestInterval : Nat := Nat.pow 2 64 - 1

/-- These options can stand at every place. -/
def globalRules : List OptionRule := [
  ⟨"url", none, true, false⟩,
  ⟨"api-key", none, true, false⟩,
  ⟨"catalog", none, true, false⟩,
  ⟨"index-prefix", none, true, false⟩,
  ⟨"debug", some 'd', false, false⟩]

inductive CommandName where
  | compile
  | search
  | tasks
  | watch
  | rebuild
  | fields
  | addField
  | renameField
  | removeField
  deriving DecidableEq, Repr

namespace CommandName

def all : List CommandName :=
  [compile, search, tasks, watch, rebuild, fields, addField, renameField, removeField]

def text : CommandName → String
  | compile => "compile"
  | search => "search"
  | tasks => "tasks"
  | watch => "watch"
  | rebuild => "rebuild"
  | fields => "fields"
  | addField => "add-field"
  | renameField => "rename-field"
  | removeField => "remove-field"

def ofText? (text : String) : Option CommandName :=
  all.find? (·.text = text)

def teamRule : OptionRule := ⟨"team", none, true, false⟩

/-- These options belong to the command itself. -/
def rules : CommandName → List OptionRule
  | compile => [⟨"keyword", some 'k', true, true⟩]
  | search => [teamRule, ⟨"limit", none, true, false⟩, ⟨"plan", none, false, false⟩]
  | watch => [teamRule, ⟨"interval-ms", none, true, false⟩]
  | addField => [teamRule, ⟨"name", none, true, false⟩, ⟨"type", none, true, false⟩]
  | tasks | rebuild | fields => [teamRule]
  | renameField | removeField => []

/-- A command has these operands. -/
def operands : CommandName → List String
  | compile | search => ["QUERY"]
  | tasks | watch | rebuild | fields | addField => []
  | renameField => ["ID", "NAME"]
  | removeField => ["ID"]

end CommandName

/-- A count of hits is read as a number with a sign, so that zero may have a minus. -/
def readCount? (text : String) : Option Nat :=
  match text.toList with
  | '-' :: digits => if !digits.isEmpty && digits.all (· == '0') then some 0 else none
  | _ => Number.ofDecimal? largestLimit text

def readInterval? (text : String) : Option Nat := Number.ofDecimal? largestInterval text

def orMisuse {Content : Type} : Option Content → Except UsageFault Content
  | some content => .ok content
  | none => .error .misuse

/-- The last value counts, so that an inner level can replace an outer one. -/
def valueOf? (given : List Given) (name : String) : Option String :=
  ((given.filter (·.name = name)).getLast?).bind Given.value

def isGiven (given : List Given) (name : String) : Bool :=
  given.any (·.name = name)

def numberOf (given : List Given) (name : String) (read : String → Option Nat)
    (default : Nat) : Except UsageFault Nat :=
  match valueOf? given name with
  | none => .ok default
  | some text => orMisuse (read text)

def limitOf (given : List Given) : Except UsageFault Nat :=
  numberOf given "limit" readCount? defaultSearchLimit

def intervalOf (given : List Given) : Except UsageFault Nat :=
  numberOf given "interval-ms" readInterval? defaultInterval

def readTeam (given : List Given) : Except UsageFault String :=
  orMisuse (valueOf? given "team")

def readCommand (name : CommandName) (given : List Given) (operands : List String) :
    Except UsageFault Command :=
  match name, operands with
  | .compile, [query] =>
      .ok (.compile query ((given.filter (·.name = "keyword")).filterMap Given.value))
  | .search, [query] => do
      let team ← readTeam given
      let limit ← limitOf given
      return .search team query limit (isGiven given "plan")
  | .tasks, [] => (readTeam given).map .tasks
  | .watch, [] => do
      let team ← readTeam given
      let interval ← intervalOf given
      return .watch team interval
  | .rebuild, [] => (readTeam given).map .rebuild
  | .fields, [] => (readTeam given).map .fields
  | .addField, [] => do
      let team ← readTeam given
      let fieldName ← orMisuse (valueOf? given "name")
      return .addField team fieldName ((valueOf? given "type").getD "string")
  | .renameField, [id, fieldName] => .ok (.renameField id fieldName)
  | .removeField, [id] => .ok (.removeField id)
  | _, _ => .error .misuse

/-- A path is not empty. -/
def readPath? (given : List Given) : Except UsageFault (Option String) :=
  if given.any fun option => option.name = "catalog" && option.value = some "" then
    .error .misuse
  else .ok (valueOf? given "catalog")

/-- Options come before the environment, and the environment before the defaults. -/
def readSettings (environment : Environment) (given : List Given) :
    Except UsageFault Settings := do
  let catalog ← readPath? given
  return {
    url := ((valueOf? given "url") <|> environment.url).getD defaultUrl
    apiKey := valueOf? given "api-key" <|> environment.apiKey
    catalog := catalog
    leading := (valueOf? given "index-prefix").getD ""
    isVerbose := isGiven given "debug" }

/-- A wish for help counts only after words that fit. -/
def checkFit (name : CommandName) (level : Level) : Except UsageFault Unit := do
  if name.operands.length < level.operands.length then throw UsageFault.misuse
  let _ ← limitOf level.given
  let _ ← intervalOf level.given
  return ()

/-- Help is about the program or about one command, which can be the one that helps. -/
def readHelpTopic : List String → UsageFault
  | [] => .help none
  | [topic] =>
      if topic = helpWord || (CommandName.ofText? topic).isSome then .help (some topic)
      else .misuse
  | _ => .misuse

/-- The first operand is the name of a command, or asks for help. -/
def Invocation.read (environment : Environment) (words : List String) :
    Except UsageFault Invocation := do
  let (outer, rest) ← readLevel globalRules true .empty words
  checkRepetition globalRules outer.given
  let _ ← readSettings environment outer.given
  if outer.asksHelp then throw (UsageFault.help none)
  match outer.operands with
  | [] => throw UsageFault.misuse
  | operand :: _ =>
      if operand = helpWord then throw (readHelpTopic rest)
      let name ← orMisuse (CommandName.ofText? operand)
      let rules := name.rules ++ globalRules
      let (inner, _) ← readLevel rules false .empty rest
      checkRepetition rules inner.given
      checkFit name inner
      let settings ← readSettings environment (outer.given ++ inner.given)
      if inner.asksHelp then throw (UsageFault.help (some name.text))
      let command ← readCommand name inner.given inner.operands
      return ⟨settings, command⟩

end AssetSearch.CommandLine

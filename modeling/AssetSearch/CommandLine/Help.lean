/-
This file writes the help of the program and of its commands.
-/

import AssetSearch.CommandLine.Options

namespace AssetSearch.CommandLine

def programName : String := "stockroom"

def programSummary : String := "Search query compiler and index task tool for Stockroom"

namespace CommandName

def summary : CommandName → String
  | compile => "Compile a query against an explicit keyword list"
  | search => "Search a team's indexes"
  | tasks => "List a team's recent index tasks"
  | watch => "Poll a team's index tasks until interrupted"
  | rebuild => "Reindex a team's indexes with its current custom fields"
  | fields => "List a team's custom fields"
  | addField => "Add a custom field to a team"
  | renameField => "Rename a custom field"
  | removeField => "Remove a custom field"

/-- These options cannot be left out. -/
def requiredOptions : CommandName → List String
  | compile | renameField | removeField => []
  | search | tasks | watch | rebuild | fields => ["--team <TEAM>"]
  | addField => ["--team <TEAM>", "--name <NAME>"]

end CommandName

/-- A line names an option or an operand, and says what it is for. -/
structure HelpLine where
  letter : Option Char
  label : String
  about : String
  deriving DecidableEq, Repr

/-- The value of a variable of the environment is shown where it is no secret. -/
def globalLines (environment : Environment) : List HelpLine := [
  ⟨none, "--url <URL>", "Index service base URL [env: STOCKROOM_INDEX_URL=" ++
    environment.url.getD "" ++ "] [default: " ++ defaultUrl ++ "]"⟩,
  ⟨none, "--api-key <API_KEY>", "Index service API key [env: STOCKROOM_INDEX_KEY]"⟩,
  ⟨none, "--catalog <CATALOG>",
    "SQLite file with custom-field definitions (in-memory if omitted)"⟩,
  ⟨none, "--index-prefix <INDEX_PREFIX>",
    "Prefix prepended to every index uid [default: ]"⟩,
  ⟨some 'd', "--debug", "Enable debug logging"⟩]

def helpLine : HelpLine := ⟨some 'h', "--help", "Print help"⟩

def teamLine : HelpLine := ⟨none, "--team <TEAM>", ""⟩

def CommandName.lines : CommandName → List HelpLine
  | .compile =>
      [⟨some 'k', "--keyword <KEYWORDS>", "Recognized custom-field keyword (repeatable)"⟩]
  | .search => [
      teamLine,
      ⟨none, "--limit <LIMIT>", "[default: " ++ toString defaultSearchLimit ++ "]"⟩,
      ⟨none, "--plan", "Print the compiled plan without contacting the index service"⟩]
  | .watch => [
      teamLine,
      ⟨none, "--interval-ms <INTERVAL_MS>", "[default: " ++ toString defaultInterval ++ "]"⟩]
  | .addField => [
      teamLine,
      ⟨none, "--name <NAME>", ""⟩,
      ⟨none, "--type <FIELD_TYPE>",
        "string, number, boolean, date, time, datetime, currency or tag [default: string]"⟩]
  | .tasks | .rebuild | .fields => [teamLine]
  | .renameField | .removeField => []

/-- Lines are sorted by their letter, or by their name if they have none. -/
def HelpLine.key (line : HelpLine) : String :=
  match line.letter with
  | some letter => String.ofList [letter, '0']
  | none => String.ofList ((line.label.toList.drop 2).takeWhile (· != ' '))

/-- Lines at the same position of two lists come in the order of their keys. -/
def merged : List HelpLine → List HelpLine → List HelpLine
  | [], second => second
  | first, [] => first
  | one :: first, other :: second =>
      (if one.key ≤ other.key then [one, other] else [other, one]) ++ merged first second

def HelpLine.start (line : HelpLine) : String :=
  match line.letter with
  | some letter => "-" ++ String.singleton letter ++ ", " ++ line.label
  | none => "    " ++ line.label

/-- Every row begins with its label, and what stands behind the labels is aligned. -/
def columns (rows : List (String × String)) : List String :=
  let width := (rows.map fun row => row.1.length).foldl max 0
  rows.map fun (label, about) =>
    "  " ++ label ++ String.ofList (List.replicate (width - label.length) ' ') ++ "  " ++ about

/-- A section has a title and is left out if it is empty. -/
def helpSection (title : String) (rows : List (String × String)) : List String :=
  if rows.isEmpty then []
  else [String.intercalate "\n" ((title ++ ":") :: columns rows)]

def optionSection (lines : List HelpLine) : List String :=
  helpSection "Options" ((lines ++ [helpLine]).map fun line => (line.start, line.about))

/-- An empty line stands between two parts. -/
def helpPage (parts : List String) : String :=
  String.intercalate "\n\n" parts ++ "\n"

def usage (words : List String) : String :=
  "Usage: " ++ String.intercalate " " (programName :: words)

def helpSummary : String := "Print this message or the help of the given subcommand(s)"

def programHelp (environment : Environment) : String :=
  helpPage ([programSummary, usage ["[OPTIONS]", "<COMMAND>"]] ++
    helpSection "Commands" ((CommandName.all.map fun name => (name.text, name.summary)) ++
      [(helpWord, helpSummary)]) ++
    optionSection (globalLines environment))

def inAngles (text : String) : String := "<" ++ text ++ ">"

def CommandName.help (environment : Environment) (name : CommandName) : String :=
  helpPage ([name.summary,
      usage ([name.text, "[OPTIONS]"] ++ name.requiredOptions ++ name.operands.map inAngles)] ++
    helpSection "Arguments" (name.operands.map fun operand => (inAngles operand, "")) ++
    optionSection (merged name.lines (globalLines environment)))

def helpOfHelp : String :=
  helpPage ([helpSummary, usage [helpWord, "[COMMAND]..."]] ++
    helpSection "Arguments" [("[COMMAND]...", "Print help for the subcommand(s)")])

/-- Help for a topic is that of its command. -/
def helpText (environment : Environment) : Option String → String
  | none => programHelp environment
  | some topic =>
      match CommandName.ofText? topic with
      | some name => name.help environment
      | none => helpOfHelp

end AssetSearch.CommandLine

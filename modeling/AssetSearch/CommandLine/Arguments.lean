/-
This file sorts the words of a command line into options and operands.
-/

namespace AssetSearch.CommandLine

/-- An option has a long name, maybe a letter, and either takes a value or does not. -/
structure OptionRule where
  name : String
  letter : Option Char
  takesValue : Bool
  isRepeatable : Bool
  deriving DecidableEq, Repr

/-- A flag has no value. -/
structure Given where
  name : String
  value : Option String
  deriving DecidableEq, Repr

/-- A command line does not fit, or asks for help with the program or with one command. -/
inductive UsageFault where
  | misuse
  | help (topic : Option String)
  deriving DecidableEq, Repr

/-- A value is a word of its own unless it looks like an option. -/
def isValueWord (word : String) : Bool :=
  word = "-" || word.toList.head? != some '-'

/-- What one word says, and whether an option needs the next word as its value. -/
inductive WordReading where
  | operand (word : String)
  | endOfOptions
  | helpWish
  | options (given : List Given) (needed : Option String)
  deriving DecidableEq, Repr

def splitAtEquals (characters : List Char) : String × Option String :=
  let name := String.ofList (characters.takeWhile (· != '='))
  match characters.dropWhile (· != '=') with
  | [] => (name, none)
  | _ :: value => (name, some (String.ofList value))

def readLong (rules : List OptionRule) (characters : List Char) : Except UsageFault WordReading :=
  let (name, value) := splitAtEquals characters
  if name = "help" && value.isNone then .ok .helpWish
  else
    match rules.find? (·.name = name) with
    | none => .error .misuse
    | some rule =>
        match rule.takesValue, value with
        | true, some value => .ok (.options [⟨name, some value⟩] none)
        | true, none => .ok (.options [] (some name))
        | false, none => .ok (.options [⟨name, none⟩] none)
        | false, some _ => .error .misuse

/-- Letters of flags may be written together, and the first letter with a value ends them. -/
def readLetters (rules : List OptionRule) : List Char → Except UsageFault WordReading
  | [] => .ok (.options [] none)
  | letter :: rest =>
      if letter = 'h' then .ok .helpWish
      else
        match rules.find? (·.letter = some letter) with
        | none => .error .misuse
        | some rule =>
            if rule.takesValue then
              match rest with
              | [] => .ok (.options [] (some rule.name))
              | '=' :: value => .ok (.options [⟨rule.name, some (String.ofList value)⟩] none)
              | value => .ok (.options [⟨rule.name, some (String.ofList value)⟩] none)
            else
              match readLetters rules rest with
              | .ok (.options given needed) =>
                  .ok (.options (⟨rule.name, none⟩ :: given) needed)
              | other => other

def readWord (rules : List OptionRule) (word : String) : Except UsageFault WordReading :=
  match word.toList with
  | ['-', '-'] => .ok .endOfOptions
  | '-' :: '-' :: name => readLong rules name
  | '-' :: letter :: letters => readLetters rules (letter :: letters)
  | _ => .ok (.operand word)

/-- These are the options and operands of one level, up to the wish for help if there is one. -/
structure Level where
  given : List Given
  operands : List String
  asksHelp : Bool
  deriving DecidableEq, Repr

def Level.empty : Level := ⟨[], [], false⟩

/-- An option that is not repeatable is given at most once. -/
def checkRepetition (rules : List OptionRule) (given : List Given) : Except UsageFault Unit :=
  let isTooOften (rule : OptionRule) : Bool :=
    !rule.isRepeatable && 1 < (given.filter (·.name = rule.name)).length
  if rules.any isTooOften then .error .misuse else .ok ()

/-- An outer level stops at its first operand, which names the inner level of the other words. -/
def readLevel (rules : List OptionRule) (isOuter : Bool) :
    (level : Level) → List String → Except UsageFault (Level × List String)
  | level, [] => .ok (level, [])
  | level, word :: rest =>
      match readWord rules word with
      | .error fault => .error fault
      | .ok (.operand operand) =>
          let extended := { level with operands := level.operands ++ [operand] }
          if isOuter then .ok (extended, rest) else readLevel rules isOuter extended rest
      | .ok .helpWish => .ok ({ level with asksHelp := true }, [])
      | .ok .endOfOptions =>
          if isOuter then .error .misuse
          else .ok ({ level with operands := level.operands ++ rest }, [])
      | .ok (.options given none) =>
          readLevel rules isOuter { level with given := level.given ++ given } rest
      | .ok (.options given (some name)) =>
          match rest with
          | value :: later =>
              if isValueWord value then
                readLevel rules isOuter
                  { level with given := level.given ++ given ++ [⟨name, some value⟩] } later
              else .error .misuse
          | [] => .error .misuse

end AssetSearch.CommandLine

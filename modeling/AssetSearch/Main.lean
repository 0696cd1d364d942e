/-
This file is the program: it reads the command line, carries out the command and prints.
-/

import AssetSearch.Catalog.Identity
import AssetSearch.Catalog.Location
import AssetSearch.Catalog.Saved
import AssetSearch.CommandLine.Connection
import AssetSearch.CommandLine.Help
import AssetSearch.CommandLine.Run
import Std.Time.DateTime.Timestamp

namespace AssetSearch.CommandLine

open AssetSearch.Catalog
open AssetSearch.Network
open AssetSearch.Time

/-- The system describes its errors and numbers them. -/
def systemText : IO.Error → String
  | .alreadyExists _ number text
  | .permissionDenied _ number text
  | .inappropriateType _ number text
  | .noSuchThing _ number text
  | .invalidArgument _ number text
  | .resourceExhausted _ number text
  | .noFileOrDirectory _ number text
  | .otherError number text => text ++ " (os error " ++ toString number ++ ")"
  | fault => toString fault

/-- A directory that is there already is left as it is. -/
def makeDirectory (path : String) : IO Unit := do
  try
    IO.FS.createDir path
  catch
    | .alreadyExists .. => return ()
    | fault => throw fault

/-- The directories on the way are made first if they are missing. -/
partial def makeDirectories (path : String) : IO Unit := do
  if path.isEmpty then return ()
  try
    makeDirectory path
  catch
    | .noFileOrDirectory .. =>
        makeDirectories (directoryText path)
        makeDirectory path
    | fault => throw fault

/-- A file is kept in a directory, which is made if it is missing. -/
def prepareDirectory (path : String) : IO (Except Failure Unit) := do
  let directory := directoryText path
  try
    makeDirectories directory
    return .ok ()
  catch fault =>
    return .error (.database (.described
      ("Failed to create directory " ++ directory ++ ": " ++ systemText fault)))

/-- A missing file is an empty catalog. -/
def readStore (path : String) : IO (Except Failure Store) := do
  try
    return (Store.ofSavedText (← IO.FS.readFile path)).map Store.opened
  catch
    | .noFileOrDirectory .. => return .ok .empty
    | _ => return .error (.database .engine)

def openCatalog : Option String → IO (Except Failure Store)
  | none => return .ok .empty
  | some path => do
      match ← prepareDirectory path with
      | .error failure => return .error failure
      | .ok () => readStore path

/-- A catalog without a file is not kept. -/
def saveCatalog (path : Option String) (store : Store) : IO (Except Failure Unit) :=
  match path with
  | none => return .ok ()
  | some path => do
      try
        IO.FS.writeFile path store.savedText
        return .ok ()
      catch _ => return .error (.database .engine)

def freshId : IO String :=
  return identityText (← IO.getRandomBytes 16).toList

/-- The clock of the system counts from the epoch. -/
def currentInstant : IO Instant := do
  let moment ← Std.Time.Timestamp.now
  let nanoseconds := moment.toNanosecondsSinceUnixEpoch.toInt.toNat
  let instant := Instant.epoch.later (nanoseconds / 1000000)
  return { instant with nanosecond := nanoseconds % 1000000000 }

def printNow (text : String) : IO Unit := do
  IO.print text
  (← IO.getStdout).flush

def systemWorld : World IO where
  openCatalog := openCatalog
  saveCatalog := saveCatalog
  transport := Connection.transport defaultTimeout
  freshId := freshId
  now := currentInstant
  print := printNow

def systemEnvironment : IO Environment :=
  return ⟨← IO.getEnv "STOCKROOM_INDEX_URL", ← IO.getEnv "STOCKROOM_INDEX_KEY"⟩

/-- A watcher goes on until it is interrupted. -/
def endless : Nat := Nat.pow 2 64

end AssetSearch.CommandLine

open AssetSearch.CommandLine in
def main (words : List String) : IO UInt32 := do
  let environment ← systemEnvironment
  match Invocation.read environment words with
  | .error (.help topic) =>
      IO.print (helpText environment topic)
      return 0
  | .error .misuse =>
      IO.eprint (helpText environment none)
      return 2
  | .ok invocation =>
      match ← invocation.run systemWorld endless with
      | .ok () => return 0
      | .error fault =>
          IO.eprintln fault.text
          return 1

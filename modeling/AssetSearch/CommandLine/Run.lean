/-
This file carries out commands and says what they print.
-/

import AssetSearch.Catalog.Store
import AssetSearch.CommandLine.Options
import AssetSearch.Index.Remote
import AssetSearch.Network.Address
import AssetSearch.Search.Hits
import AssetSearch.Tasks.Requests
import AssetSearch.Tasks.Snapshot

namespace AssetSearch.CommandLine

open AssetSearch.Catalog
open AssetSearch.Index
open AssetSearch.Json
open AssetSearch.Network
open AssetSearch.Query
open AssetSearch.Time

/-- A command can fail in the course of its work, before it, or because there is no such field. -/
inductive RunFault where
  | failed (failure : Failure)
  | notReady (failure : Failure)
  | noField (id : String)
  deriving DecidableEq, Repr

/-- The cause stands below what it prevented. -/
def RunFault.text : RunFault → String
  | failed failure => "Error: " ++ failure.text
  | notReady failure =>
      "Error: failed to initialize Stockroom\n\nCaused by:\n    " ++ failure.text
  | noField id => "Error: no custom field with id " ++ id

/-- Commands find the catalog, the transport, the clock, new identities and the output here. A field
that was saved is read back, which can fail for reasons of its own. -/
structure World (Effect : Type → Type) [Monad Effect] where
  openCatalog : Option String → Effect (Except Failure Store)
  saveCatalog : Option String → Store → Effect (Except Failure Unit)
  readField : Store → String → Effect (Except Failure (Option CustomField)) :=
    fun store id => return store.get id
  transport : Transport Effect
  freshId : Effect String
  now : Effect Instant
  print : String → Effect Unit

/-- The program is ready when it knows its service and has opened the catalog. -/
structure Session (Effect : Type → Type) where
  catalogPath : Option String
  store : Store
  naming : Naming
  service : Service Effect

/-- Values are printed as indented documents, each with a line end. -/
def printed (value : Value) : String := value.indentedText ++ "\n"

def compiledToJson (compiled : CompiledQuery) : Value :=
  .object (Value.memberIfPresent "query" .text compiled.text ++
    Value.memberIfPresent "filter" .text compiled.filter ++
    Value.memberIfPresent "is" (fun kind => .text kind.name) compiled.kind)

/-- Settings for the service come from the options. -/
def serviceSettings [UrlParser] (settings : Settings) : Except Failure ServiceSettings :=
  (ServiceSettings.ofAddress settings.url).map fun service =>
    match settings.apiKey with
    | some key => service.withApiKey key
    | none => service

section

variable {Effect : Type → Type} [Monad Effect]

def World.printValue (world : World Effect) (value : Value) : Effect (Except RunFault Unit) := do
  world.print (printed value)
  return .ok ()

/-- A failure is not printed here but handed on. -/
def World.printResult {Content : Type} (world : World Effect) (toJson : Content → Value)
    (result : Except Failure Content) : Effect (Except RunFault Unit) :=
  match result with
  | .error failure => return .error (.failed failure)
  | .ok content => world.printValue (toJson content)

/-- The address is checked before the catalog is opened. -/
def openSession [UrlParser] (world : World Effect) (settings : Settings) :
    Effect (Except RunFault (Session Effect)) :=
  match serviceSettings settings with
  | .error failure => return .error (.failed failure)
  | .ok service => do
      match ← world.openCatalog settings.catalog with
      | .error failure => return .error (.notReady failure)
      | .ok store =>
          return .ok ⟨settings.catalog, store, ⟨settings.leading⟩,
            Remote.service ⟨service, world.transport⟩⟩

namespace Session

/-- A changed catalog is saved before anything is printed. -/
def saveAndThen (world : World Effect) (session : Session Effect) (store : Store)
    (next : Effect (Except RunFault Unit)) : Effect (Except RunFault Unit) := do
  match ← world.saveCatalog session.catalogPath store with
  | .error failure => return .error (.failed failure)
  | .ok () => next

def addField (world : World Effect) (session : Session Effect) (team name fieldType : String) :
    Effect (Except RunFault Unit) :=
  match FieldType.parse fieldType with
  | .error failure => return .error (.failed failure)
  | .ok fieldType => do
      let id ← world.freshId
      let now ← world.now
      let field := CustomField.create id team name fieldType now
      match session.store.upsert field with
      | .error failure => return .error (.failed failure)
      | .ok store => session.saveAndThen world store (world.printValue field.toJson)

/-- The renamed field is read back from the catalog. -/
def renameField (world : World Effect) (session : Session Effect) (id name : String) :
    Effect (Except RunFault Unit) :=
  match session.store.rename id name with
  | .error failure => return .error (.failed failure)
  | .ok (false, _) => return .error (.noField id)
  | .ok (true, store) =>
      session.saveAndThen world store do
        world.printResult (Value.ofOption CustomField.toJson) (← world.readField store id)

def removeField (world : World Effect) (session : Session Effect) (id : String) :
    Effect (Except RunFault Unit) :=
  match session.store.delete id with
  | .error failure => return .error (.failed failure)
  | .ok (false, _) => return .error (.noField id)
  | .ok (true, store) => session.saveAndThen world store (return .ok ())

/-- A plan is made without the service. -/
def search (world : World Effect) (session : Session Effect) (team query : String) (limit : Nat)
    (planOnly : Bool) : Effect (Except RunFault Unit) :=
  if planOnly then
    world.printResult Search.Plan.toJson
      (Search.plan session.store.slugs session.naming team query)
  else do
    let result ←
      Search.search session.service session.store.slugs session.naming team query limit
    world.printResult (Value.ofList Search.KindHits.toJson) result

def listTasks (session : Session Effect) (team : String) :
    Effect (Except Failure (List IndexTask)) :=
  Tasks.listTasks session.service session.naming Tasks.defaultTaskLimit team

def rebuild (world : World Effect) (session : Session Effect) (team : String) :
    Effect (Except RunFault Unit) := do
  let result ← Tasks.rebuild session.service session.store.slugs session.naming team
  world.printResult (Value.ofList TaskSummary.toJson) result

/-- Each listing is printed with what is known from before, and a pause follows. -/
def printListings (world : World Effect) (session : Session Effect) (team : String)
    (interval : Duration) : (documents : Nat) → Tasks.Snapshot Instant → Effect Unit
  | 0, _ => return ()
  | documents + 1, snapshot => do
      let result ← session.listTasks team
      let now ← world.now
      let snapshot := snapshot.afterListing now result
      world.print (printed snapshot.toJson)
      world.transport.pause interval
      session.printListings world team interval documents snapshot

/-- Tasks are not listed more often than this, in milliseconds. -/
def shortestInterval : Nat := 100

def watch (world : World Effect) (session : Session Effect) (team : String) (interval : Nat)
    (documents : Nat) : Effect (Except RunFault Unit) := do
  session.printListings world team (.ofMilliseconds (max interval shortestInterval)) documents
    .empty
  return .ok ()

end Session

/-- The work is done only if the program gets ready for it. -/
def withSession [UrlParser] (world : World Effect) (settings : Settings)
    (work : Session Effect → Effect (Except RunFault Unit)) : Effect (Except RunFault Unit) := do
  match ← openSession world settings with
  | .error fault => return .error fault
  | .ok session => work session

/-- Compiling needs neither the catalog nor the service. -/
def Command.run [UrlParser] (world : World Effect) (settings : Settings) (documents : Nat) :
    Command → Effect (Except RunFault Unit)
  | .compile query keywords =>
      world.printValue (compiledToJson
        (CompiledQuery.ofQuery (Vocabulary.ofSlugs keywords) query))
  | .search team query limit planOnly =>
      withSession world settings fun session => session.search world team query limit planOnly
  | .tasks team =>
      withSession world settings fun session => do
        world.printResult (Value.ofList IndexTask.toJson) (← session.listTasks team)
  | .watch team interval =>
      withSession world settings fun session => session.watch world team interval documents
  | .rebuild team =>
      withSession world settings fun session => session.rebuild world team
  | .fields team =>
      withSession world settings fun session =>
        world.printResult (Value.ofList CustomField.toJson) (session.store.list team)
  | .addField team name fieldType =>
      withSession world settings fun session => session.addField world team name fieldType
  | .renameField id name =>
      withSession world settings fun session => session.renameField world id name
  | .removeField id =>
      withSession world settings fun session => session.removeField world id

/-- A watcher prints at most so many documents. -/
def Invocation.run [UrlParser] (world : World Effect) (documents : Nat) (invocation : Invocation) :
    Effect (Except RunFault Unit) :=
  invocation.command.run world invocation.settings documents

end

end AssetSearch.CommandLine

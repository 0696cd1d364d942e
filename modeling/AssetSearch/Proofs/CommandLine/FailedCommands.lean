/-
This file shows what commands that end with an error have changed in the catalog. The change is the
last step but one of a command that adds or renames a field: after it a renamed field is read back,
and the field is printed. If this fails the catalog has changed all the same.
-/

import AssetSearch.CommandLine.Run
import AssetSearch.Network.Offline
import AssetSearch.Proofs.Catalog.WrittenRows
import Mathlib.Logic.Function.Basic

namespace AssetSearch.CommandLine

open AssetSearch.Catalog
open AssetSearch.Json
open AssetSearch.Network
open AssetSearch.Time

/-- These commands write into the catalog. -/
def Command.ChangesFields : Command → Prop
  | .addField .. | .renameField .. | .removeField _ => True
  | _ => False

/-- Whatever a program does can break off, as printing does when nobody reads the output. -/
abbrev Breaking (State : Type) := EStateM String State

section

variable {State Content Next : Type} {rowsAt : State → String → List Row}

/-- A run that breaks off leaves a state too. -/
def lastState : EStateM.Result String State Content → State
  | .ok _ state => state
  | .error _ state => state

/-- A command ends with an error when it fails and when it breaks off. -/
def EndsWithError (result : EStateM.Result String State (Except RunFault Unit)) : Prop :=
  ∀ state, result ≠ .ok (.ok ()) state

/-- The rows in the files are those from before, however the run ends. -/
def LeavesRows (rowsAt : State → String → List Row) (run : Breaking State Content) : Prop :=
  ∀ state, rowsAt (lastState (run state)) = rowsAt state

theorem bind_of_ok {run : Breaking State Content} {next : Content → Breaking State Next}
    {before between : State} {content : Content} (isOk : run before = .ok content between) :
    (run >>= next) before = next content between := by
  simp only [bind, EStateM.bind, isOk]

theorem bind_of_error {run : Breaking State Content} {next : Content → Breaking State Next}
    {before lost : State} {panic : String} (isError : run before = .error panic lost) :
    (run >>= next) before = .error panic lost := by
  simp only [bind, EStateM.bind, isError]

/-- Rows that have changed in the end were changed by what came after a run that leaves them. -/
theorem LeavesRows.of_bind_changed {run : Breaking State Content}
    {next : Content → Breaking State Next} {before : State} (leaves : LeavesRows rowsAt run)
    (changed : rowsAt (lastState ((run >>= next) before)) ≠ rowsAt before) :
    ∃ content between, run before = .ok content between ∧
      (run >>= next) before = next content between ∧
      rowsAt (lastState (next content between)) ≠ rowsAt between ∧
      rowsAt between = rowsAt before := by
  have kept := leaves before
  cases isRun : run before with
  | error panic lost =>
      rw [isRun] at kept
      rw [bind_of_error isRun] at changed
      exact absurd kept changed
  | ok content between =>
      rw [isRun] at kept
      rw [bind_of_ok isRun, ← show rowsAt between = rowsAt before from kept] at changed
      exact ⟨content, between, rfl, bind_of_ok isRun, changed, kept⟩

theorem LeavesRows.pure (content : Content) :
    LeavesRows rowsAt (Pure.pure content : Breaking State Content) := fun _ => rfl

theorem LeavesRows.bind {run : Breaking State Content} {next : Content → Breaking State Next}
    (first : LeavesRows rowsAt run) (second : ∀ content, LeavesRows rowsAt (next content)) :
    LeavesRows rowsAt (run >>= next) := by
  intro before
  have kept := first before
  cases isRun : run before with
  | ok content between =>
      rw [isRun] at kept
      rw [bind_of_ok isRun]
      exact (second content between).trans kept
  | error panic lost =>
      rw [isRun] at kept
      rw [bind_of_error isRun]
      exact kept

end

/-- A file has the rows that were saved in it last, and an opened catalog has those of its file. A
field that is read back is the one that was saved. Nothing else has an effect on the files, whether
it succeeds, fails or breaks off. -/
structure World.Keeps {State : Type} (world : World (Breaking State))
    (rowsAt : State → String → List Row) : Prop where
  opening : ∀ place, LeavesRows rowsAt (world.openCatalog place)
  opened : ∀ path before store opened,
    world.openCatalog (some path) before = .ok (.ok store) opened →
      store.table = some (rowsAt before path)
  saved : ∀ path rows before saved,
    world.saveCatalog (some path) ⟨some rows⟩ before = .ok (.ok ()) saved →
      rowsAt saved = Function.update (rowsAt before) path rows
  notSaved : ∀ place store before,
    (∀ saved, world.saveCatalog place store before ≠ .ok (.ok ()) saved) →
      rowsAt (lastState (world.saveCatalog place store before)) = rowsAt before
  withoutFile : ∀ store, LeavesRows rowsAt (world.saveCatalog none store)
  reading : ∀ store id, LeavesRows rowsAt (world.readField store id)
  read : ∀ store id before field after,
    world.readField store id before = .ok (.ok field) after → store.get id = .ok field
  identities : LeavesRows rowsAt world.freshId
  clock : LeavesRows rowsAt world.now
  printing : ∀ text, LeavesRows rowsAt (world.print text)

section

variable {State : Type} {world : World (Breaking State)} {rowsAt : State → String → List Row}
  {session : Session (Breaking State)} {settings : Settings} {before after : State}
  {store : Store} {id name path : String} {rows : List Row}

/-- Nobody gets to see what is printed. -/
def World.CannotPrint (world : World (Breaking State)) (value : Value) (before : State) : Prop :=
  ∃ panic lost, world.print (printed value) before = .error panic lost

/-- A field of the saved catalog can be read back, or it cannot be printed. -/
def World.CannotShow (world : World (Breaking State)) (store : Store) (id : String)
    (saved : State) : Prop :=
  ∀ field after, world.readField store id saved = .ok (.ok field) after →
    world.CannotPrint (Value.ofOption CustomField.toJson field) after

theorem World.Keeps.printValue (keeps : world.Keeps rowsAt) (value : Value) :
    LeavesRows rowsAt (world.printValue value) :=
  (keeps.printing (printed value)).bind fun _ => LeavesRows.pure _

theorem World.endsWithError_printValue_iff {value : Value} :
    EndsWithError (world.printValue value before) ↔ world.CannotPrint value before := by
  cases isPrint : world.print (printed value) before with
  | ok done after =>
      have result : world.printValue value before = .ok (.ok ()) after := bind_of_ok isPrint
      rw [result]
      refine iff_of_false (fun fails => fails after rfl) ?_
      rintro ⟨panic, lost, breaks⟩
      rw [isPrint] at breaks
      cases breaks
  | error panic lost =>
      have result : world.printValue value before = .error panic lost := bind_of_error isPrint
      rw [result]
      exact iff_of_true (fun _ => nofun) ⟨panic, lost, isPrint⟩

/-- This is the last part of a command that renames a field. -/
def World.showField (world : World (Breaking State)) (store : Store) (id : String) :
    Breaking State (Except RunFault Unit) := do
  world.printResult (Value.ofOption CustomField.toJson) (← world.readField store id)

theorem World.Keeps.showField (keeps : world.Keeps rowsAt) (store : Store) (id : String) :
    LeavesRows rowsAt (world.showField store id) := by
  refine (keeps.reading store id).bind fun result => ?_
  cases result with
  | error failure => exact LeavesRows.pure _
  | ok field => exact keeps.printValue _

theorem World.endsWithError_showField_iff :
    EndsWithError (world.showField store id before) ↔ world.CannotShow store id before := by
  cases isRead : world.readField store id before with
  | error panic lost =>
      have result : world.showField store id before = .error panic lost := bind_of_error isRead
      rw [result, CannotShow, isRead]
      exact iff_of_true (fun _ => nofun) nofun
  | ok read after =>
      have result : world.showField store id before =
          world.printResult (Value.ofOption CustomField.toJson) read after := bind_of_ok isRead
      rw [result, CannotShow, isRead]
      cases read with
      | error failure => exact iff_of_true (fun _ => nofun) nofun
      | ok field =>
          rw [printResult, endsWithError_printValue_iff]
          constructor
          · rintro cannotPrint _ _ ⟨⟩
            exact cannotPrint
          · exact fun cannotShow => cannotShow field after rfl

/-- A renamed field is never shown if its row cannot be read. -/
theorem World.Keeps.cannotShow (keeps : world.Keeps rowsAt) {row : Row} {failure : Failure}
    (isRow : rows.find? (·.id = .text id) = some row)
    (unreadable : (row.renamed name).field = .error failure) (saved : State) :
    world.CannotShow ⟨some (rows.map (Row.renamedIf id name))⟩ id saved := by
  intro field after isRead
  have read := keeps.read _ id saved field after isRead
  rw [(Store.get_renamed_error_iff name).mpr ⟨row, isRow, unreadable⟩] at read
  cases read

namespace Session

theorem saveAndThen_saved {next : Breaking State (Except RunFault Unit)} {saved : State}
    (isSaved : world.saveCatalog session.catalogPath store before = .ok (.ok ()) saved) :
    session.saveAndThen world store next before = next saved :=
  bind_of_ok isSaved

/-- Rows that have changed were saved before anything else was done. -/
theorem saveAndThen_changed (keeps : world.Keeps rowsAt)
    {next : Breaking State (Except RunFault Unit)} (leaves : LeavesRows rowsAt next)
    (changed : rowsAt (lastState (session.saveAndThen world ⟨some rows⟩ next before)) ≠
      rowsAt before) :
    ∃ path saved, session.catalogPath = some path ∧
      world.saveCatalog (some path) ⟨some rows⟩ before = .ok (.ok ()) saved ∧
      rows ≠ rowsAt before path := by
  by_cases isSaved : ∃ saved,
      world.saveCatalog session.catalogPath ⟨some rows⟩ before = .ok (.ok ()) saved
  · obtain ⟨saved, isSaved⟩ := isSaved
    rw [saveAndThen_saved isSaved, leaves saved] at changed
    cases place : session.catalogPath with
    | none =>
        have kept := keeps.withoutFile ⟨some rows⟩ before
        rw [← place, isSaved] at kept
        exact absurd kept changed
    | some path =>
        rw [place] at isSaved
        rw [keeps.saved path rows before saved isSaved, ne_eq,
          Function.update_eq_self_iff] at changed
        exact ⟨path, saved, rfl, isSaved, changed⟩
  · rw [not_exists] at isSaved
    have kept := keeps.notSaved session.catalogPath ⟨some rows⟩ before isSaved
    refine absurd ?_ changed
    cases save : world.saveCatalog session.catalogPath ⟨some rows⟩ before with
    | error panic lost =>
        rw [save] at kept
        rw [saveAndThen, bind_of_error save]
        exact kept
    | ok result after =>
        rw [save] at kept
        rw [saveAndThen, bind_of_ok save]
        cases result with
        | error failure => exact kept
        | ok done => exact absurd save (isSaved after)

/-- The identity and the time are taken before anything is written. -/
theorem addField_changed (keeps : world.Keeps rowsAt) {team typeName : String}
    (changed : rowsAt (lastState (session.addField world team name typeName before)) ≠
      rowsAt before) :
    ∃ fieldType id named now timed written,
      FieldType.parse typeName = .ok fieldType ∧ world.freshId before = .ok id named ∧
      world.now named = .ok now timed ∧ rowsAt timed = rowsAt before ∧
      session.store.upsert (CustomField.create id team name fieldType now) = .ok written ∧
      session.addField world team name typeName before = session.saveAndThen world written
        (world.printValue (CustomField.create id team name fieldType now).toJson) timed := by
  cases isType : FieldType.parse typeName with
  | error failure =>
      rw [addField, isType] at changed
      exact absurd rfl changed
  | ok fieldType =>
      simp only [addField, isType] at changed
      obtain ⟨id, named, isNamed, afterName, changed, keptName⟩ :=
        keeps.identities.of_bind_changed changed
      obtain ⟨now, timed, isTimed, afterTime, changed, keptTime⟩ :=
        keeps.clock.of_bind_changed changed
      refine ⟨fieldType, id, named, now, timed, ?_⟩
      cases isUpsert : session.store.upsert (CustomField.create id team name fieldType now) with
      | error failure =>
          rw [isUpsert] at changed
          exact absurd rfl changed
      | ok written =>
          rw [isUpsert] at afterTime
          refine ⟨written, rfl, isNamed, isTimed, keptTime.trans keptName, rfl, ?_⟩
          rw [addField, isType]
          exact afterName.trans afterTime

theorem addField_saved {team typeName : String} {fieldType : FieldType} {named timed saved : State}
    {now : Instant} {written : Store} (isType : FieldType.parse typeName = .ok fieldType)
    (isNamed : world.freshId before = .ok id named) (isTimed : world.now named = .ok now timed)
    (isUpsert : session.store.upsert (CustomField.create id team name fieldType now) = .ok written)
    (isSaved : world.saveCatalog session.catalogPath written timed = .ok (.ok ()) saved) :
    session.addField world team name typeName before =
      world.printValue (CustomField.create id team name fieldType now).toJson saved := by
  simp only [addField, isType]
  rw [bind_of_ok isNamed, bind_of_ok isTimed, isUpsert]
  exact saveAndThen_saved isSaved

theorem renameField_changed
    (changed : rowsAt (lastState (session.renameField world id name before)) ≠ rowsAt before) :
    ∃ rows, session.store.table = some rows ∧ slug name ≠ "" ∧
      session.renameField world id name before =
        session.saveAndThen world ⟨some (rows.map (Row.renamedIf id name))⟩
          (world.showField ⟨some (rows.map (Row.renamedIf id name))⟩ id) before := by
  cases isRename : session.store.rename id name with
  | error failure =>
      rw [renameField, isRename] at changed
      exact absurd rfl changed
  | ok result =>
      obtain ⟨known, written⟩ := result
      obtain ⟨keyword, rows, isTable, rfl⟩ := Store.rename_isOk isRename
      cases known with
      | false =>
          rw [renameField, isRename] at changed
          exact absurd rfl changed
      | true =>
          refine ⟨rows, isTable, keyword, ?_⟩
          rw [renameField, isRename]
          rfl

theorem renameField_saved {saved : State} (isTable : session.store.table = some rows)
    (keyword : slug name ≠ "") (known : ∃ row ∈ rows, row.id = .text id)
    (isSaved : world.saveCatalog session.catalogPath ⟨some (rows.map (Row.renamedIf id name))⟩
      before = .ok (.ok ()) saved) :
    session.renameField world id name before =
      world.showField ⟨some (rows.map (Row.renamedIf id name))⟩ id saved := by
  have isRename := Store.rename_eq id isTable keyword
  obtain ⟨row, inside, same⟩ := known
  rw [List.any_eq_true.mpr ⟨row, inside, decide_eq_true same⟩] at isRename
  rw [renameField, isRename]
  exact saveAndThen_saved isSaved

/-- Nothing can fail after a field was removed. -/
theorem removeField_failed (keeps : world.Keeps rowsAt)
    (failed : EndsWithError (session.removeField world id before)) :
    rowsAt (lastState (session.removeField world id before)) = rowsAt before := by
  cases isDelete : session.store.delete id with
  | error failure =>
      rw [removeField, isDelete]
      rfl
  | ok result =>
      obtain ⟨known, written⟩ := result
      cases known with
      | false =>
          rw [removeField, isDelete]
          rfl
      | true =>
          obtain ⟨rows, rfl⟩ : ∃ rows, written = ⟨some rows⟩ := by
            cases isTable : session.store.table with
            | none => simp [Store.delete, Store.rows, isTable, Except.map] at isDelete
            | some rows =>
                simp only [Store.delete, Store.rows, isTable, Except.map, Except.ok.injEq,
                  Prod.mk.injEq] at isDelete
                exact ⟨_, isDelete.2.symm⟩
          have command : session.removeField world id before =
              session.saveAndThen world ⟨some rows⟩ (pure (.ok ())) before := by
            rw [removeField, isDelete]
          rw [command] at failed ⊢
          by_contra changed
          obtain ⟨path, saved, place, isSaved, -⟩ :=
            saveAndThen_changed keeps (LeavesRows.pure _) changed
          rw [← place] at isSaved
          exact failed saved (saveAndThen_saved isSaved)

end Session

section

variable [UrlParser]

/-- The session of the command when its catalog has been opened. -/
def sessionOf (world : World (Breaking State)) (settings : Settings) (service : ServiceSettings)
    (store : Store) : Session (Breaking State) :=
  ⟨settings.catalog, store, ⟨settings.leading⟩, Index.Remote.service ⟨service, world.transport⟩⟩

/-- The program gets ready for a command with a catalog in a file. -/
structure OpensFile (world : World (Breaking State)) (settings : Settings) (path : String)
    (before : State) (store : Store) (opened : State) : Prop where
  place : settings.catalog = some path
  service : ∃ service, serviceSettings settings = .ok service
  opens : world.openCatalog (some path) before = .ok (.ok store) opened

variable {work : Session (Breaking State) → Breaking State (Except RunFault Unit)} {opened : State}

theorem withSession_opened {service : ServiceSettings}
    (isService : serviceSettings settings = .ok service)
    (opens : world.openCatalog settings.catalog before = .ok (.ok store) opened) :
    withSession world settings work before =
      work (sessionOf world settings service store) opened := by
  have session : openSession world settings before =
      .ok (.ok (sessionOf world settings service store)) opened := by
    rw [openSession, isService]
    exact bind_of_ok opens
  rw [withSession, bind_of_ok session]

theorem World.Keeps.openSession (keeps : world.Keeps rowsAt) :
    LeavesRows rowsAt (openSession world settings) := by
  rw [CommandLine.openSession]
  cases serviceSettings settings with
  | error failure => exact LeavesRows.pure _
  | ok service =>
      refine (keeps.opening settings.catalog).bind fun result => ?_
      cases result with
      | error failure => exact LeavesRows.pure _
      | ok store => exact LeavesRows.pure _

theorem openSession_isOk {session : Session (Breaking State)}
    (isOk : openSession world settings before = .ok (.ok session) opened) :
    ∃ service store, serviceSettings settings = .ok service ∧
      world.openCatalog settings.catalog before = .ok (.ok store) opened ∧
      session = sessionOf world settings service store := by
  cases isService : serviceSettings settings with
  | error failure =>
      rw [openSession, isService] at isOk
      cases isOk
  | ok service =>
      simp only [openSession, isService] at isOk
      cases opens : world.openCatalog settings.catalog before with
      | error panic lost =>
          rw [bind_of_error opens] at isOk
          cases isOk
      | ok result between =>
          rw [bind_of_ok opens] at isOk
          cases result with
          | error failure => cases isOk
          | ok store =>
              cases isOk
              exact ⟨service, store, rfl, rfl, rfl⟩

/-- Nothing has changed before the work begins. -/
theorem withSession_changed (keeps : world.Keeps rowsAt)
    (changed : rowsAt (lastState (withSession world settings work before)) ≠ rowsAt before) :
    ∃ service store opened, serviceSettings settings = .ok service ∧
      world.openCatalog settings.catalog before = .ok (.ok store) opened ∧
      rowsAt opened = rowsAt before ∧
      rowsAt (lastState (work (sessionOf world settings service store) opened)) ≠ rowsAt opened ∧
      withSession world settings work before =
        work (sessionOf world settings service store) opened := by
  rw [withSession] at changed
  obtain ⟨result, opened, isSession, afterOpening, changed, kept⟩ :=
    keeps.openSession.of_bind_changed changed
  cases result with
  | error fault => exact absurd rfl changed
  | ok session =>
      obtain ⟨service, store, isService, opens, rfl⟩ := openSession_isOk isSession
      exact ⟨service, store, opened, isService, opens, kept, changed, afterOpening⟩

variable (world rowsAt settings before) in
/-- The command changes the rows of a file so that they are as given, and ends with an error after
that. The first row with the identity of a renamed field is the one that is read back. -/
inductive ChangesUnshown : Command → String → List Row → Prop
  | added {team name typeName path id : String} {fieldType : FieldType} {store : Store}
      {opened named timed saved : State} {now : Instant} {rows : List Row}
      (opens : OpensFile world settings path before store opened)
      (isType : FieldType.parse typeName = .ok fieldType)
      (isNamed : world.freshId opened = .ok id named) (isTimed : world.now named = .ok now timed)
      (isTeam : Text.trimmed team ≠ "") (keyword : slug name ≠ "")
      (isWritten : rows = Store.upsertRow
        (Row.ofField (CustomField.create id team name fieldType now)) (rowsAt before path))
      (isSaved : world.saveCatalog (some path) ⟨some rows⟩ timed = .ok (.ok ()) saved)
      (changed : rows ≠ rowsAt before path)
      (unshown : world.CannotPrint (CustomField.create id team name fieldType now).toJson saved) :
      ChangesUnshown (.addField team name typeName) path rows
  | renamed {id name path : String} {store : Store} {opened saved : State} {rows : List Row}
      (opens : OpensFile world settings path before store opened) (keyword : slug name ≠ "")
      (isWritten : rows = (rowsAt before path).map (Row.renamedIf id name))
      (isSaved : world.saveCatalog (some path) ⟨some rows⟩ opened = .ok (.ok ()) saved)
      (changed : rows ≠ rowsAt before path) (unshown : world.CannotShow ⟨some rows⟩ id saved) :
      ChangesUnshown (.renameField id name) path rows

namespace ChangesUnshown

variable {command : Command}

theorem rows_ne (changes : ChangesUnshown world rowsAt settings before command path rows) :
    rows ≠ rowsAt before path := by
  cases changes with
  | added _ _ _ _ _ _ _ _ changed _ => exact changed
  | renamed _ _ _ _ changed _ => exact changed

/-- The command fails after it has made the change. -/
theorem run_fails (keeps : world.Keeps rowsAt) (documents : Nat)
    (changes : ChangesUnshown world rowsAt settings before command path rows) :
    EndsWithError (command.run world settings documents before) ∧
      rowsAt (lastState (command.run world settings documents before)) =
        Function.update (rowsAt before) path rows := by
  cases changes with
  | @added team name typeName _ id fieldType store opened named timed saved now _ opens isType
      isNamed isTimed isTeam keyword isWritten isSaved changed unshown =>
      obtain ⟨place, ⟨service, isService⟩, opens⟩ := opens
      have isTable := keeps.opened path before store opened opens
      have isUpsert : store.upsert (CustomField.create id team name fieldType now) =
          .ok ⟨some rows⟩ :=
        Store.upsert_eq_ok_iff.mpr ⟨isTeam, keyword, _, isTable, congrArg _ (congrArg _ isWritten)⟩
      have run : (Command.addField team name typeName).run world settings documents before =
          world.printValue (CustomField.create id team name fieldType now).toJson saved := by
        rw [Command.run, withSession_opened isService (place ▸ opens)]
        exact Session.addField_saved isType isNamed isTimed isUpsert (by rwa [sessionOf, place])
      have keptOpening := keeps.opening (some path) before
      have keptName := keeps.identities opened
      have keptTime := keeps.clock named
      rw [opens] at keptOpening
      rw [isNamed] at keptName
      rw [isTimed] at keptTime
      have kept : rowsAt timed = rowsAt before := keptTime.trans (keptName.trans keptOpening)
      rw [run, World.endsWithError_printValue_iff, keeps.printValue,
        keeps.saved path rows timed saved isSaved, kept]
      exact ⟨unshown, rfl⟩
  | @renamed id name _ store opened saved _ opens keyword isWritten isSaved changed unshown =>
      obtain ⟨place, ⟨service, isService⟩, opens⟩ := opens
      have isTable := keeps.opened path before store opened opens
      have known : ∃ row ∈ rowsAt before path, row.id = .text id := by
        rw [isWritten] at changed
        obtain ⟨row, inside, same, -⟩ := Store.map_renamedIf_ne_iff.mp changed
        exact ⟨row, inside, same⟩
      have run : (Command.renameField id name).run world settings documents before =
          world.showField ⟨some rows⟩ id saved := by
        rw [Command.run, withSession_opened isService (place ▸ opens), isWritten]
        exact Session.renameField_saved isTable keyword known
          (by rwa [sessionOf, place, ← isWritten])
      have kept : rowsAt opened = rowsAt before := by
        have keptOpening := keeps.opening (some path) before
        rwa [opens] at keptOpening
      rw [run, World.endsWithError_showField_iff, keeps.showField,
        keeps.saved path rows opened saved isSaved, kept]
      exact ⟨unshown, rfl⟩

/-- Nothing else that can fail comes after a change. -/
theorem of_failed (keeps : world.Keeps rowsAt) (writes : command.ChangesFields) (documents : Nat)
    (failed : EndsWithError (command.run world settings documents before))
    (changed : rowsAt (lastState (command.run world settings documents before)) ≠ rowsAt before) :
    ∃ path rows, ChangesUnshown world rowsAt settings before command path rows := by
  cases command with
  | addField team name typeName =>
      obtain ⟨service, store, opened, isService, opens, keptOpening, changed, run⟩ :=
        withSession_changed keeps changed
      obtain ⟨fieldType, id, named, now, timed, written, isType, isNamed, isTimed, kept, isUpsert,
        command⟩ := Session.addField_changed keeps changed
      obtain ⟨isTeam, keyword, rows, isTable, rfl⟩ := Store.upsert_eq_ok_iff.mp isUpsert
      rw [Command.run, run, command] at failed
      rw [command, ← kept] at changed
      obtain ⟨path, saved, place, isSaved, different⟩ :=
        Session.saveAndThen_changed keeps (keeps.printValue _) changed
      rw [Session.saveAndThen_saved (by rwa [place]), World.endsWithError_printValue_iff] at failed
      have place : settings.catalog = some path := place
      rw [place] at opens
      obtain rfl : rows = rowsAt before path :=
        Option.some.inj (isTable.symm.trans (keeps.opened path before store opened opens))
      rw [kept, keptOpening] at different
      exact ⟨path, _, .added ⟨place, ⟨service, isService⟩, opens⟩ isType isNamed isTimed isTeam
        keyword rfl isSaved different failed⟩
  | renameField id name =>
      obtain ⟨service, store, opened, isService, opens, keptOpening, changed, run⟩ :=
        withSession_changed keeps changed
      obtain ⟨rows, isTable, keyword, command⟩ := Session.renameField_changed changed
      rw [Command.run, run, command] at failed
      rw [command] at changed
      obtain ⟨path, saved, place, isSaved, different⟩ :=
        Session.saveAndThen_changed keeps (keeps.showField _ id) changed
      rw [Session.saveAndThen_saved (by rwa [place]), World.endsWithError_showField_iff] at failed
      have place : settings.catalog = some path := place
      rw [place] at opens
      obtain rfl : rows = rowsAt before path :=
        Option.some.inj (isTable.symm.trans (keeps.opened path before store opened opens))
      rw [keptOpening] at different
      exact ⟨path, _, .renamed ⟨place, ⟨service, isService⟩, opens⟩ keyword rfl isSaved different
        failed⟩
  | removeField id =>
      obtain ⟨service, store, opened, -, -, -, changed, run⟩ := withSession_changed keeps changed
      rw [Command.run, run] at failed
      exact absurd (Session.removeField_failed keeps failed) changed
  | compile | search | tasks | watch | rebuild | fields => cases writes

end ChangesUnshown

/-- A command that writes into the catalog ends with an error and has changed rows exactly if it
adds or renames a field that cannot be shown after it was saved, and then this is what it has
changed. In particular it has if it renames a field whose row cannot be read. -/
theorem failedCommand_rows (keeps : world.Keeps rowsAt) {invocation : Invocation}
    (writes : invocation.command.ChangesFields) (documents : Nat) (before : State) :
    let result := invocation.run world documents before
    (EndsWithError result ∧ rowsAt (lastState result) ≠ rowsAt before ↔
      ∃ path rows, ChangesUnshown world rowsAt invocation.settings before invocation.command
        path rows) ∧
    ∀ path rows, ChangesUnshown world rowsAt invocation.settings before invocation.command path
      rows → rowsAt (lastState result) = Function.update (rowsAt before) path rows := by
  intro result
  refine ⟨⟨fun ⟨failed, changed⟩ => ChangesUnshown.of_failed keeps writes documents failed changed,
    ?_⟩, fun path rows changes => (changes.run_fails keeps documents).2⟩
  rintro ⟨path, rows, changes⟩
  obtain ⟨failed, after⟩ := changes.run_fails keeps documents
  refine ⟨failed, ?_⟩
  rw [show rowsAt (lastState result) = _ from after, ne_eq, Function.update_eq_self_iff]
  exact changes.rows_ne

end

end

/-- The files are all there is. Opening and saving succeed. -/
def filesWorld : World (Breaking (String → List Row)) where
  openCatalog place files :=
    .ok (.ok (match place with | some path => ⟨some (files path)⟩ | none => .empty)) files
  saveCatalog place store files :=
    .ok (.ok ()) (match place with
      | some path => Function.update files path (store.table.getD [])
      | none => files)
  transport := offlineTransport (Breaking (String → List Row))
  freshId files := .ok "f2" files
  now files := .ok ⟨⟨2024, 6, 1⟩, 0, 0⟩ files
  print _ files := .ok () files

theorem filesWorld_keeps : filesWorld.Keeps id where
  opening place files := rfl
  opened path files store opened isOk := by
    cases isOk
    rfl
  saved path rows files saved isOk := by
    cases isOk
    rfl
  notSaved place store files isError := absurd rfl (isError _)
  withoutFile store files := rfl
  reading store id files := rfl
  read store id files field after isOk := (EStateM.Result.ok.inj isOk).1
  identities files := rfl
  clock files := rfl
  printing text files := rfl

/-- Another program has written this row. -/
def undatedRow : Row := ⟨"f1", "team-1", "Serial", "serial", "string", "yesterday"⟩

def undatedFiles : String → List Row := fun _ => [undatedRow]

def fileSettings : Settings := ⟨defaultUrl, none, some "catalog.db", "", false⟩

/-- The field of this row gets another name. -/
def undatedRename : Invocation := ⟨fileSettings, .renameField "f1" "Colour"⟩

theorem undatedRow_unreadable : (undatedRow.renamed "Colour").field = .error (.database
    (.described "Invalid created_at for field f1: premature end of input")) := by
  decide +kernel

theorem changesUnshown_undatedRow :
    ChangesUnshown filesWorld id fileSettings undatedFiles undatedRename.command "catalog.db"
      [⟨"f1", "team-1", "Colour", "colour", "string", "yesterday"⟩] := by
  have service : ∃ service, serviceSettings fileSettings = .ok service := by
    refine ⟨⟨⟨"http://127.0.0.1:7700/", "http://127.0.0.1:7700/", "http", some "127.0.0.1", true⟩,
      none, defaultTimeout, .default⟩, ?_⟩
    decide +kernel
  have isWritten : [(⟨"f1", "team-1", "Colour", "colour", "string", "yesterday"⟩ : Row)] =
      [undatedRow].map (Row.renamedIf "f1" "Colour") := by decide +kernel
  refine .renamed ⟨rfl, service, rfl⟩ (by decide +kernel) isWritten rfl (by decide +kernel) ?_
  rw [isWritten]
  exact filesWorld_keeps.cannotShow rfl undatedRow_unreadable _

theorem failedCommand_rows_undatedRow :
    undatedRename.command.ChangesFields ∧
      let result := undatedRename.run filesWorld 0 undatedFiles
      EndsWithError result ∧ lastState result "catalog.db" =
        [⟨"f1", "team-1", "Colour", "colour", "string", "yesterday"⟩] := by
  have writes : undatedRename.command.ChangesFields := trivial
  obtain ⟨failed, after⟩ := failedCommand_rows filesWorld_keeps writes 0 undatedFiles
  refine ⟨writes, (failed.mpr ⟨_, _, changesUnshown_undatedRow⟩).1, ?_⟩
  have rows := after _ _ changesUnshown_undatedRow
  simp only [id_eq] at rows
  rw [rows, Function.update_self]

theorem failedRename_changesRows :
    ¬ ∀ (before : String → List Row) (invocation : Invocation),
      invocation.command.ChangesFields → EndsWithError (invocation.run filesWorld 0 before) →
        lastState (invocation.run filesWorld 0 before) = before := by
  intro unchanged
  obtain ⟨failed, rows⟩ := changesUnshown_undatedRow.run_fails filesWorld_keeps 0
  have same := rows.symm.trans (unchanged undatedFiles undatedRename trivial failed)
  rw [id_eq, Function.update_eq_self_iff] at same
  exact absurd same (by decide +kernel)

end AssetSearch.CommandLine

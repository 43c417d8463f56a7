import TaskBoard.Log
import TaskBoard.Service
import TaskBoard.Settings.Cache
import TaskBoard.Startup
import TaskBoard.Task
import TaskBoard.Terminal.Command
import TaskBoard.Terminal.Screen

namespace TaskBoard.Terminal

/--
What a call finds and leaves behind: variables, a file with more of them, a clock, stores,
a console, and the way that settings are collected.
-/
structure World where
  environment : List (String × String) := []
  file : Option String := none
  clock : Clock
  around : Surroundings
  console : Console
  collection : Settings.Collection

structure Server where
  host : String
  port : Int
  title : String := "tasklist"

structure Session where
  world : World
  logging : Log.Setup := ⟨Log.warning, false⟩
  journal : List Log.Record := []
  screen : List Item := []
  servers : List Server := []
  connections : List Credentials.Grant := []

inductive Ending where
  | exit (code : Nat)
  | crash (f : Failure)

abbrev Action (α : Type) := EStateM Ending Session α

def display (item : Item) : Action Unit := fun s =>
  match s.world.console item with
  | none => .ok () { s with screen := s.screen ++ [item] }
  | some complaint => .error (.crash (.markup complaint)) s

def logger : String := "tasklist.api.cli"

def note (level : Int) (text : String) : Action Unit := fun s =>
  .ok () { s with journal := s.journal ++ [⟨logger, level, text, {}, .none⟩] }

def fail {α : Type} (n : Notice) : Action α := do
  display n.panel
  throw (.exit 1)

def orExit {α : Type} (outcome : Except Refusal α) : Action α := fun s =>
  match outcome with
  | .ok a => .ok a s
  | .error r => .error (.exit r.exitCode) s

def orCrash {α : Type} (outcome : Except Failure α) : Action α := fun s =>
  match outcome with
  | .ok a => .ok a s
  | .error f => .error (.crash f) s

def orElse {α : Type} (act : Action α) (instead : Failure → Option (Action α)) : Action α := fun s =>
  match act s with
  | .error (.crash f) s =>
    match instead f with
    | some other => other s
    | none => .error (.crash f) s
  | result => result

def orNotice {α : Type} (notice : Failure → Option Notice) (act : Action α) : Action α :=
  orElse act fun f => (notice f).map fail

def configure (backend : Option String) : Action Settings := do
  let s ← get
  let arguments := [("backend", (backend.map Value.text).getD .null)]
  let sources : Settings.Sources := { environment := s.world.environment, file := s.world.file }
  let settings ← orNotice Notice.ofSettings (orCrash (Settings.obtain s.world.collection {} sources arguments).1)
  modify fun s => { s with logging := ⟨settings.logLevel, settings.logForm == LineForm.json⟩ }
  pure settings

def startUp (settings : Settings) : Action OpenedStore := fun s =>
  let startup := Startup.run settings s.world.around
  let around := { s.world.around with disk := startup.disk }
  let s := { s with
    world := { s.world with around }
    journal := s.journal ++ startup.journal
    connections := s.connections ++ startup.connections }
  orCrash startup.result s

def startFailure (f : Failure) : Option (Action OpenedStore) :=
  match f.reason with
  | .credentials _ => some do
    note Log.critical ("failed to parse creds: " ++ f.message)
    fail ⟨f.message, "Błąd poświadczeń"⟩
  | .store _ _ => some do
    note Log.critical ("Could not create datastore client: " ++ f.message)
    fail ⟨f.message, "Błąd magazynu"⟩
  | _ => none

def openStore (settings : Settings) : Action OpenedStore := orElse (startUp settings) startFailure

def Session.after (s : Session) (location : Location) (service : Service) : Session :=
  { s with
    world := { s.world with
      clock := service.clock
      around := s.world.around.keep location service.store.backend }
    journal := s.journal ++ service.store.journal }

def use {α : Type} (o : OpenedStore) (act : Service.Action α) : Action α := fun s =>
  match act ⟨{ backend := o.backend }, s.world.clock⟩ with
  | .ok a service => .ok a (s.after o.location service)
  | .error f service => .error (.crash f) (s.after o.location service)

def serve (settings : Settings) (host : Option String) (port : Option Int) : Action Unit := do
  let _ ← openStore settings
  let host := host.getD ""
  let port := port.getD 0
  let server : Server :=
    ⟨if host == "" then settings.host else host, if port == 0 then settings.port else port, "tasklist"⟩
  note Log.info ("Starting datastore task list on port " ++ Number.integerText server.port)
  modify fun s => { s with servers := s.servers ++ [server] }

def create (settings : Settings) (description : String) : Action Unit := do
  let t ← orNotice Notice.ofFailure do use (← openStore settings) (Service.createTask description)
  display (createdPanel t)

def list (settings : Settings) : Action Unit := do
  let tasks ← orNotice Notice.ofFailure do use (← openStore settings) Service.listTasks
  (← orCrash (taskTable tasks)).forM display

def complete (settings : Settings) (id : String) : Action Unit := do
  let t ← orNotice Notice.ofCompletion do
    let o ← openStore settings
    use o (Service.markDone (← orCrash (TaskId.parse id)))
  display (donePanel t)

def delete (settings : Settings) (id : String) : Action Unit := do
  let id ← orNotice Notice.ofDeletion do
    let id ← orCrash (TaskId.parse id)
    use (← openStore settings) (Service.removeTask id)
    pure id
  display (deletedPanel id)

def perform (settings : Settings) : Command → Action Unit
  | .serve host port => serve settings host port
  | .create description => create settings description
  | .list => list settings
  | .complete id => complete settings id
  | .delete id => delete settings id

def execute (line : List String) : Action Unit := do
  let call ← orExit (Call.read line)
  let settings ← configure call.backend
  perform settings (← orExit call.command?)

structure Report where
  exitCode : Nat
  crash : Option Failure
  session : Session

def Report.journal (r : Report) : List Log.Record := r.session.logging.filter r.session.journal

def run (world : World) (line : List String) : Report :=
  match execute line { world } with
  | .ok _ s => ⟨0, none, s⟩
  | .error (.exit code) s => ⟨code, none, s⟩
  | .error (.crash f) s => ⟨1, some f, s⟩

end TaskBoard.Terminal

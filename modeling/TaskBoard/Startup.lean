import TaskBoard.Credentials
import TaskBoard.Settings.Basic
import TaskBoard.Store.Basic
import TaskBoard.Store.Location

namespace TaskBoard

structure OpenedStore where
  backend : Backend
  location : Location := .volatile

/-- What a process can reach: a loader of credentials, the remote store, which may refuse a client, and the disk. -/
structure Surroundings where
  loader : Credentials.Loader
  remote : Datastore.Client
  refusal : Option Failure := none
  disk : Disk := {}

def Surroundings.keep (around : Surroundings) (location : Location) : Backend → Surroundings
  | .memory _ => around
  | .sql d => { around with disk := around.disk.keep ⟨location, d⟩ }
  | .datastore c => { around with remote := c }

structure Startup where
  result : Except Failure OpenedStore
  loads : List Credentials.Load := []
  connections : List Credentials.Grant := []
  journal : List Log.Record := []
  disk : Disk

namespace Startup

def logger : String := "tasklist.app.bootstrap"

def note (level : Int) (text : String) : Log.Record := ⟨logger, level, text, {}, .none⟩

def clientFailure (f : Failure) : Failure :=
  if f.isAuth || f.isOs || f.isValue then .store "create datastore client" f else f

def openDatastore (settings : Settings) (around : Surroundings) : Startup :=
  let attempt := Credentials.obtain around.loader settings.serviceName settings.vcapServices
  match attempt.result with
  | .error f => { result := .error f, loads := attempt.loads, journal := attempt.journal, disk := around.disk }
  | .ok grant =>
    let connections := [grant]
    match around.refusal with
    | some f =>
      { result := .error (clientFailure f), loads := attempt.loads, connections, journal := attempt.journal,
        disk := around.disk }
    | none =>
      { result := .ok ⟨.datastore around.remote, .volatile⟩, loads := attempt.loads, connections
        journal := attempt.journal ++ [note Log.info ("connected to datastore project " ++ grant.project.plain)]
        disk := around.disk }

def openSql (settings : Settings) (around : Surroundings) : Startup :=
  let (opened, disk) := around.disk.openUrl settings.sqlUrl
  { result := opened.map fun o => ⟨.sql o.database, o.location⟩
    journal := [note Log.info ("using SQL store at " ++ settings.sqlUrl)], disk }

def openMemory (around : Surroundings) : Startup :=
  { result := .ok ⟨.memory {}, .volatile⟩
    journal := [note Log.warning "using in-memory store; tasks are lost on exit"], disk := around.disk }

def run (settings : Settings) (around : Surroundings) : Startup :=
  match settings.backend with
  | .datastore => openDatastore settings around
  | .sql => openSql settings around
  | .memory => openMemory around

end Startup

end TaskBoard

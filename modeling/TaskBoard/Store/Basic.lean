import TaskBoard.Entries
import TaskBoard.Log
import TaskBoard.Store.Database
import TaskBoard.Store.Datastore
import TaskBoard.Task

namespace TaskBoard

structure Memory where
  tasks : List (Int × Task) := []
  next : Nat := 1
deriving Inhabited

namespace Memory

/-- The least number from the counter on that is no key. One of `n + 1` numbers is not among `n` keys. -/
def freeId (m : Memory) : Nat :=
  ((List.range' m.next (m.tasks.length + 1)).find? fun (n : Nat) => !Entries.hasKey (n : Int) m.tasks).getD m.next

def add (m : Memory) (t : Task) : Task × Memory :=
  match t.id with
  | some id => (t, { m with tasks := Entries.assign id t m.tasks })
  | none =>
    let id := m.freeId
    let saved := { t with id := some (id : Int) }
    (saved, ⟨Entries.assign (id : Int) saved m.tasks, id + 1⟩)

def ofTasks (tasks : List Task) : Memory := tasks.foldl (fun m t => (m.add t).2) {}

def get? (m : Memory) (id : Int) : Option Task := m.tasks.lookup id

def modify (m : Memory) (id : Int) (change : Change) : Except Failure (Task × Memory) :=
  match m.get? id with
  | none => .error (.taskNotFound id)
  | some t => do
    let changed ← change t
    let updated := { changed with id := some id }
    pure (updated, { m with tasks := Entries.assign id updated m.tasks })

def remove (m : Memory) (id : Int) : Memory := { m with tasks := Entries.erase id m.tasks }

def list (m : Memory) : Except Failure (List Task) := Task.inOrder (Entries.values m.tasks)

end Memory

inductive Backend where
  | memory (m : Memory)
  | sql (d : Database)
  | datastore (c : Datastore.Client)
deriving Inhabited

structure Store where
  backend : Backend
  journal : List Log.Record := []
deriving Inhabited

namespace Store

/-- An operation on a store, which changes it also where it fails. -/
abbrev Action (α : Type) := EStateM Failure Store α

def log (r : Log.Record) : Action Unit := fun s => .ok () { s with journal := s.journal ++ [r] }

def settle {α : Type} (s : Store) (outcome : Except Failure (α × Backend)) : EStateM.Result Failure Store α :=
  match outcome with
  | .ok (a, b) => .ok a { s with backend := b }
  | .error f => .error f s

def onClient {α : Type} (s : Store) (c : Datastore.Client) (act : Datastore.Action α) : EStateM.Result Failure Store α :=
  match act c with
  | .ok a c => .ok a { s with backend := .datastore c }
  | .error f c => .error f { s with backend := .datastore c }

def add (t : Task) : Action Task := fun s =>
  match s.backend with
  | .memory m => .ok (m.add t).1 { s with backend := .memory (m.add t).2 }
  | .sql d => s.settle ((d.add t).map fun r => (r.1, .sql r.2))
  | .datastore c => s.onClient c (Datastore.add t)

def get (id : Int) : Action (Option Task) := fun s =>
  match s.backend with
  | .memory m => .ok (m.get? id) s
  | .sql d => s.settle ((d.get id).map fun r => (r, .sql d))
  | .datastore c => s.onClient c (Datastore.getTask id)

def modify (id : Int) (change : Change) : Action Task := fun s =>
  match s.backend with
  | .memory m => s.settle ((m.modify id change).map fun r => (r.1, .memory r.2))
  | .sql d => s.settle ((d.modify id change).map fun r => (r.1, .sql r.2))
  | .datastore c => s.onClient c (Datastore.modify id change)

def remove (id : Int) : Action Unit := fun s =>
  match s.backend with
  | .memory m => .ok () { s with backend := .memory (m.remove id) }
  | .sql d => s.settle ((d.remove id).map fun r => ((), .sql r))
  | .datastore c => s.onClient c (Datastore.remove id)

def datastoreLogger : String := "tasklist.adapters.datastore.task_repo"

def lift {α : Type} (outcome : Except Failure α) : Action α := fun s =>
  match outcome with
  | .ok a => .ok a s
  | .error f => .error f s

def list : Action (List Task) := fun s =>
  match s.backend with
  | .memory m => lift m.list s
  | .sql d => lift d.list s
  | .datastore c =>
    (do
      let entities ← fun s =>
        onClient s c (Datastore.reported "read from datastore" (Datastore.fetch Datastore.taskKind "created"))
      log ⟨datastoreLogger, Log.debug, "fetched " ++ Number.naturalText entities.length ++ " tasks", {}, .none⟩
      lift (Datastore.tasksInOrder entities) : Action (List Task)) s

end Store

end TaskBoard

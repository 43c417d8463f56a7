import TaskBoard.Entries
import TaskBoard.Task

/-! The remote store: entities with free-form properties, and a client whose calls are noted and can fail. -/

namespace TaskBoard.Datastore

inductive KeyId where
  | number (n : Int)
  | name (s : String)
deriving DecidableEq

structure Key where
  kind : String
  id : KeyId
deriving DecidableEq

structure Entity where
  properties : List (String × Value)
  unindexed : List String := []

inductive CallKind where
  | put
  | get
  | delete
  | fetch
  | begin
  | commit
  | rollback
deriving DecidableEq

structure Call where
  kind : CallKind
  detail : Value
  inTransaction : Bool

structure Client where
  entities : List (Key × Entity) := []
  nextId : Int
  faults : CallKind → Option Failure := fun _ => none
  calls : List Call := []

instance : Inhabited Client := ⟨{ nextId := 5629499534213120 }⟩

abbrev Action (α : Type) := EStateM Failure Client α

def KeyId.number? : KeyId → Option Int
  | .number n => some n
  | .name _ => none

def KeyId.value : KeyId → Value
  | .number n => .int n
  | .name s => .text s

def note (kind : CallKind) (detail : Value) (inTransaction : Bool) : Action Unit := fun c =>
  let c := { c with calls := c.calls ++ [⟨kind, detail, inTransaction⟩] }
  match c.faults kind with
  | some f => .error f c
  | none => .ok () c

def assign (key : Key) (e : Entity) : Action Unit := fun c =>
  .ok () { c with entities := Entries.assign key e c.entities }

def takeId : Action Int := fun c => .ok c.nextId { c with nextId := c.nextId + 1 }

def put (key : Key) (e : Entity) (inTransaction : Bool) : Action Unit := do
  note .put key.id.value inTransaction
  assign key e

def putNew (kind : String) (e : Entity) : Action Key := do
  note .put .null false
  let key : Key := ⟨kind, .number (← takeId)⟩
  assign key e
  pure key

def get (key : Key) (inTransaction : Bool) : Action (Option Entity) := do
  note .get key.id.value inTransaction
  fun c => .ok (c.entities.lookup key) c

def delete (key : Key) : Action Unit := do
  note .delete key.id.value false
  fun c => .ok () { c with entities := Entries.erase key c.entities }

def fetch (kind order : String) : Action (List (Key × Entity)) := do
  note .fetch (.list [.text kind, .list [.text order]]) false
  fun c => .ok (c.entities.filter fun e => e.1.kind == kind) c

def rollBack (before : List (Key × Entity)) (c : Client) : Client :=
  { c with entities := before, calls := c.calls ++ [⟨.rollback, .null, true⟩] }

def transaction {α : Type} (body : Action α) : Action α := do
  note .begin .null false
  fun c =>
    match (do let a ← body; note .commit .null true; pure a : Action α) c with
    | .ok a after => .ok a after
    | .error f after => .error f (rollBack c.entities after)

def taskKind : String := "Task"

def taskKey (id : Int) : Key := ⟨taskKind, .number id⟩

def ofTask (t : Task) : Entity :=
  ⟨[("description", t.description), ("created", t.created), ("done", .bool t.done)], ["description"]⟩

def notDated : Failure := .ofReason (.general .key [.text "created"])

/-- A description may be missing and counts as empty then. A time of creation must be there, whatever it is. -/
def toTask (key : Key) (e : Entity) : Except Failure Task :=
  let description := (e.properties.lookup "description").getD (.text "")
  let done := ((e.properties.lookup "done").getD (.bool false)).truth
  match e.properties.lookup "created" with
  | some created => .ok ⟨description, created, done, key.id.number?⟩
  | none => .error notDated

def reported {α : Type} (operation : String) (act : Action α) : Action α := fun c =>
  match act c with
  | .ok a after => .ok a after
  | .error f after => .error (if f.isCall then .store operation f else f) after

def lift {α : Type} (outcome : Except Failure α) : Action α := fun c =>
  match outcome with
  | .ok a => .ok a c
  | .error f => .error f c

def add (t : Task) : Action Task := do
  let key ← reported "create task" (putNew taskKind (ofTask t))
  lift (toTask key (ofTask t))

def getTask (id : Int) : Action (Option Task) := do
  match ← reported "read task" (get (taskKey id) false) with
  | some e => do pure (some (← lift (toTask (taskKey id) e)))
  | none => pure none

def update (id : Int) (change : Change) : Action Task :=
  transaction do
    match ← get (taskKey id) true with
    | none => throw (.taskNotFound id)
    | some e =>
      let changed ← lift (change (← lift (toTask (taskKey id) e)))
      put (taskKey id) (ofTask changed) true
      pure changed

def modify (id : Int) (change : Change) : Action Task := do
  let changed ← reported "update task" (update id change)
  pure { changed with id := some id }

def remove (id : Int) : Action Unit := reported "delete task" (delete (taskKey id))

def tasksInOrder (entities : List (Key × Entity)) : Except Failure (List Task) := do
  let tasks ← entities.mapM fun e => toTask e.1 e.2
  Task.inOrder tasks

end TaskBoard.Datastore

import TaskBoard.Store.Basic
import TaskBoard.Task

namespace TaskBoard

structure Service where
  store : Store
  clock : Clock

namespace Service

abbrev Action (α : Type) := EStateM Failure Service α

def onStore {α : Type} (act : Store.Action α) : Action α := fun s =>
  match act s.store with
  | .ok a store => .ok a { s with store }
  | .error f store => .error f { s with store }

def lift {α : Type} (outcome : Except Failure α) : Action α := fun s =>
  match outcome with
  | .ok a => .ok a s
  | .error f => .error f s

def now : Action Time.Timestamp := fun s =>
  match s.clock.reading with
  | .ok t => .ok t { s with clock := s.clock.advance }
  | .error f => .error f { s with clock := s.clock.advance }

def log (r : Log.Record) : Action Unit := onStore (Store.log r)

def logger : String := "tasklist.services.task_service"

def noteTask (id : Value) (text : String) : Action Unit :=
  log ⟨logger, Log.debug, text, { taskId := some id }, .none⟩

def createTask (description : String) : Action Task := do
  let created ← now
  let saved ← onStore (Store.add { description := .text description, created := .time created })
  let id := Value.ofId saved.id
  noteTask id ("created task " ++ id.plain)
  pure saved

def listTasks : Action (List Task) := onStore Store.list

def markDone (id : Int) : Action Task := do
  let t ← onStore (Store.modify id fun t => .ok t.complete)
  noteTask (.int id) ("marked task " ++ Number.integerText id ++ " done")
  pure t

def removeTask (id : Int) : Action Unit := do
  onStore (Store.remove id)
  noteTask (.int id) ("deleted task " ++ Number.integerText id)

end Service

end TaskBoard

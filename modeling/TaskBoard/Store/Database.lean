import TaskBoard.Entries
import TaskBoard.Task

namespace TaskBoard

open Number Time

structure Row where
  description : String
  created : String
  done : Int

structure Database where
  rows : Option (List (Int × Row)) := some []
deriving Inhabited

namespace Database

/-- The text of an instant on a UTC clock. The year is not filled up to four digits. -/
def stampChars (t : Timestamp) : List Char :=
  let d := t.date
  digits d.year ++ '-' :: padded 2 d.month ++ '-' :: padded 2 d.day ++ 'T' :: t.clockChars ++
    '.' :: padded 6 t.micros ++ ['Z']

/--
The same instant on a UTC clock. A reading without an offset is taken for one in UTC, but not on the first day, since
the day before is looked at too.
-/
def toUtc (t : Timestamp) : Except Failure Timestamp :=
  if !t.isAware && t.wall < microsOfDay then .error (.value "year 0 is out of range")
  else
    match t.toUtc? with
    | some u => .ok u
    | none => .error Clock.outOfRange

def encodeTime (t : Timestamp) : Except Failure String := do
  let u ← toUtc t
  pure (String.ofList (stampChars u))

def encodeCreated : Value → Except Failure String
  | .time t => encodeTime t
  | v => .error (.missingAttribute v "astimezone")

def decodeTime (s : String) : Except Failure Timestamp :=
  match Timestamp.read (String.ofList (s.toList.flatMap fun c => if c == 'Z' then "+00:00".toList else [c])) with
  | .ok t => toUtc t
  | .error e => .error (.value e.message)

def fault (kind : DatabaseFault) (text : String) : Failure :=
  .ofReason (.database kind [.text ("(sqlite3." ++ kind.name ++ ") " ++ text)])

def noTable : Failure := fault .operational "no such table: tasks"

def noDescription : Failure := fault .integrity "NOT NULL constraint failed: tasks.description"

def tooLarge : Failure := .overflow "Python int too large to convert to SQLite INTEGER"

def encodeDescription : Value → Except Failure String
  | .text s => .ok s
  | .null => .error noDescription
  | .int n => .ok (integerText n)
  | .bool b => .ok (if b then "1" else "0")
  | .float x => .ok x.text
  | _ => .error (fault .statement "Error binding parameter")

def checkId (id : Int) : Except Failure Unit := if TaskId.inRange id then .ok () else .error tooLarge

def table (d : Database) : Except Failure (List (Int × Row)) :=
  match d.rows with
  | some rows => .ok rows
  | none => .error noTable

def searchable (d : Database) (id : Int) : Except Failure (List (Int × Row)) := do
  let rows ← d.table
  checkId id
  pure rows

def toTask (id : Int) (r : Row) : Except Failure Task := do
  let created ← decodeTime r.created
  pure ⟨.text r.description, .time created, r.done != 0, some id⟩

def ofBool (b : Bool) : Int := if b then 1 else 0

def newId : List (Int × Row) → Int
  | [] => 1
  | e :: rest => rest.foldl (fun n r => max n r.1) e.1 + 1

def reported {α : Type} (operation : String) (outcome : Except Failure α) : Except Failure α :=
  match outcome with
  | .ok a => .ok a
  | .error f => .error (if f.isDatabase then .store operation f else f)

def insert (d : Database) (description : Value) (created : String) (done : Bool) : Except Failure (Int × Database) := do
  let rows ← d.table
  let text ← encodeDescription description
  let id := newId rows
  pure (id, ⟨some (rows ++ [(id, ⟨text, created, ofBool done⟩)])⟩)

def add (d : Database) (t : Task) : Except Failure (Task × Database) := do
  let created ← encodeCreated t.created
  let (id, d) ← reported "create task" (d.insert t.description created t.done)
  pure ({ t with id := some id }, d)

def get (d : Database) (id : Int) : Except Failure (Option Task) := do
  let rows ← reported "read task" (d.searchable id)
  match rows.lookup id with
  | some r => do pure (some (← toTask id r))
  | none => pure none

def update (d : Database) (id : Int) (change : Change) : Except Failure (Task × Database) := do
  let rows ← d.searchable id
  match rows.lookup id with
  | none => .error (.taskNotFound id)
  | some r => do
    let changed ← change (← toTask id r)
    let created ← encodeCreated changed.created
    let text ← encodeDescription changed.description
    pure ({ changed with id := some id }, ⟨some (Entries.assign id ⟨text, created, ofBool changed.done⟩ rows)⟩)

def modify (d : Database) (id : Int) (change : Change) : Except Failure (Task × Database) :=
  reported "update task" (d.update id change)

def remove (d : Database) (id : Int) : Except Failure Database := do
  let rows ← reported "delete task" (d.searchable id)
  pure ⟨some (Entries.erase id rows)⟩

def notAfter (a b : Int × Row) : Bool :=
  a.2.created < b.2.created || (a.2.created == b.2.created && a.1 ≤ b.1)

def list (d : Database) : Except Failure (List Task) := do
  let rows ← reported "read from database" d.table
  (rows.mergeSort notAfter).mapM fun e => toTask e.1 e.2

def prepare (d : Database) : Database := ⟨some (d.rows.getD [])⟩

end Database

end TaskBoard

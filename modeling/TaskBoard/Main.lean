import Std.Time.DateTime.Timestamp
import TaskBoard.Json.Reader
import TaskBoard.Json.Writer
import TaskBoard.Log
import TaskBoard.Store.Database
import TaskBoard.Terminal.Session

namespace TaskBoard.Database

def rowDocument (e : Int × Row) : Value :=
  .list [.int e.1, .text e.2.description, .text e.2.created, .int e.2.done]

def ofRowDocument? : Json.Document → Option (Int × Row)
  | .list [.int id, .text description, .text created, .int done] => do
    pure (id, ⟨String.ofList (← description.chars?), String.ofList (← created.chars?), done⟩)
  | _ => none

def document (d : Database) : Value :=
  match d.rows with
  | none => .null
  | some rows => .list (rows.map rowDocument)

def ofDocument? : Json.Document → Option Database
  | .null => some ⟨none⟩
  | .list rows => (rows.mapM ofRowDocument?).map fun rows => ⟨some rows⟩
  | _ => none

theorem ofRowDocument?_rowDocument (e : Int × Row) : ofRowDocument? (.ofValue (rowDocument e)) = some e := by
  simp [rowDocument, ofRowDocument?, Json.Document.ofValue, Json.Document.ofItems, Json.Script.ofString]

theorem ofDocument?_document (d : Database) : ofDocument? (.ofValue d.document) = some d := by
  obtain ⟨_ | rows⟩ := d
  · rfl
  · have h : ((rows.map rowDocument).map Json.Document.ofValue).mapM ofRowDocument? = some rows := by
      induction rows with
      | nil => rfl
      | cons e rest ih => simp only [List.map_cons, List.mapM_cons, ofRowDocument?_rowDocument, ih]; rfl
    simp only [document, Json.Document.ofValue_list, ofDocument?, h, Option.map_some]

def save (d : Database) : String := Json.write .compact d.document

def load? (text : String) : Option Database :=
  match Json.read text.toList with
  | .ok v => ofDocument? v
  | .error _ => none

end TaskBoard.Database

namespace TaskBoard

def variableNames : List String := [
  "HOST", "PORT", "SERVICE_NAME", "VCAP_SERVICES", "TASKLIST_BACKEND", "BACKEND", "TASKLIST_SQL_URL", "SQL_URL",
  "LOG_LEVEL", "LOG_FORMAT"]

def readVariables : IO (List (String × String)) := do
  let found ← (variableNames.map Text.lower ++ variableNames).mapM fun name => do
    pure ((← IO.getEnv name).map fun value => (name, value))
  pure (found.filterMap id)

def readFile? (path : String) : IO (Option String) := do
  try pure (some (← IO.FS.readFile path)) catch _ => pure none

def readClock : IO Time.Timestamp := do
  let t ← Std.Time.Timestamp.now
  pure ((Time.Timestamp.epoch.shift? (t.toNanosecondsSinceUnixEpoch.val / 1000)).getD Time.Timestamp.epoch)

def unreachable : Failure := .ofReason (.auth .transport [.text "no network"])

def readWorld (now : Time.Timestamp) : IO Terminal.World := do
  pure {
    environment := ← readVariables
    file := ← readFile? ".env"
    clock := .scripted now []
    around := { loader := fun _ => .error unreachable, remote := { nextId := 1 } }
    console := fun _ => none
    collection := .caseless }

def loadDisk (touched : Disk) : IO Disk := do
  let databases ← touched.databases.filterMapM fun e => do
    pure (((← readFile? e.1).bind Database.load?).map fun d => (e.1, d))
  pure { databases }

def saveDisk (disk : Disk) : IO Unit := do
  for folder in disk.folders do IO.FS.createDirAll folder
  for (path, d) in disk.databases do IO.FS.writeFile path d.save

def itemText : Terminal.Item → String
  | .panel text title _ => title ++ "\n" ++ text
  | .table columns rows => "\n".intercalate ((columns :: rows).map fun r => " | ".intercalate r)
  | .text s => s

/-- Calls twice: a first time to find out which files matter, and then with their contents. -/
def call (line : List String) : IO UInt32 := do
  let now ← readClock
  let world ← readWorld now
  let rehearsal := Terminal.run world line
  let disk ← loadDisk rehearsal.session.world.around.disk
  let report := Terminal.run { world with around := { world.around with disk } } line
  saveDisk report.session.world.around.disk
  for r in report.journal do IO.eprintln (report.session.logging.line now r)
  for item in report.session.screen do IO.println (itemText item)
  for s in report.session.servers do IO.println (s.title ++ " at " ++ s.host ++ ":" ++ Number.integerText s.port)
  for f in report.crash.toList do IO.eprintln f.stack
  pure (UInt32.ofNat report.exitCode)

end TaskBoard

def main (line : List String) : IO UInt32 := TaskBoard.call line

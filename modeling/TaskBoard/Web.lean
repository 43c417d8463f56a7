import TaskBoard.Failure
import TaskBoard.Json.Writer
import TaskBoard.Service
import TaskBoard.Task
import TaskBoard.Text.Utf8

namespace TaskBoard.Web

structure Body where
  chunks : List (List UInt8)
  disconnects : Bool := false

structure Message where
  text : String
  events : Nat

def gather (limit : Nat) (disconnects : Bool) (taken : Nat) (buffer : List UInt8) :
    List (List UInt8) → Except Failure (List UInt8 × Nat)
  | [] => if disconnects then .error (.ofReason .disconnected) else .ok (buffer, taken + 1)
  | chunk :: later =>
    let buffer := buffer ++ chunk
    if !chunk.isEmpty && limit ≤ buffer.length then .ok (buffer, taken + 1)
    else gather limit disconnects (taken + 1) buffer later

def Body.message (body : Body) (limit : Nat) : Except Failure Message := do
  let (octets, events) ← gather limit body.disconnects 0 [] body.chunks
  pure ⟨String.ofList (Text.Utf8.decodeLossy (octets.take limit)), events⟩

def messageLimit : Nat := 256

open Number Time

def zoneChars (offset : Int) : List Char :=
  let seconds := offset / microsOfSecond
  let minutes := seconds.natAbs / 60
  if seconds == 0 then ['Z']
  else (if seconds < 0 then '-' else '+') :: padded 2 (minutes / 60) ++ ':' :: padded 2 (minutes % 60)

def createdChars (t : Timestamp) : List Char :=
  t.dateChars ++ 'T' :: t.clockChars ++ Timestamp.fractionChars t.micros ++ (t.offset.map zoneChars).getD []

def descriptionProblems : Value → List Problem
  | .text _ => []
  | v => [⟨["description"], "string_type", "Input should be a valid string", v⟩]

def idProblems : Option Int → List Problem
  | some _ => []
  | none => [⟨["task_id"], "int_type", "Input should be a valid integer", .null⟩]

/-- What the schema of an answer makes of a value that is no time but may stand for one, such as a number of seconds. -/
abbrev Conversion := Value → Except Problem Timestamp

def createdTime (convert : Conversion) : Value → Except Problem Timestamp
  | .time t => .ok t
  | v => convert v

def shown (convert : Conversion) (t : Task) : Except Failure Value :=
  let reject := fun problems => .error (.ofReason (.rejected "TaskOut" problems))
  match createdTime convert t.created with
  | .error problem => reject (descriptionProblems t.description ++ problem :: idProblems t.id)
  | .ok created =>
    match descriptionProblems t.description ++ idProblems t.id with
    | [] => .ok (.map [("Desc", t.description), ("Created", .text (String.ofList (createdChars created))),
        ("Done", .bool t.done), ("Id", .ofId t.id)])
    | problems => reject problems

def listing (convert : Conversion) (tasks : List Task) : Except Failure String := do
  let values ← tasks.mapM (shown convert)
  pure (Json.write .compact (.list values))

/--
A request of the interface, under any path but those that the router takes for the document that describes it, or leads
there from. Its query is ASCII, and its host, if it names one, is well-formed.
-/
structure Request where
  method : String
  path : String
  body : Body

def Request.urlPath (r : Request) : String :=
  String.ofList (r.path.toList.filter fun c => !(['\t', '\n', '\r'].contains c))

structure Response where
  status : Nat
  contentType : Option String
  allow : Option String := none
  body : String

def Response.contentLength (r : Response) : Nat := r.body.utf8ByteSize

def plainText (status : Nat) (body : String) : Response := ⟨status, some "text/plain; charset=utf-8", none, body⟩

def logger : String := "tasklist.api.http"

def getTasks (convert : Conversion) : Service.Action Response := do
  let tasks ← Service.listTasks
  let body ← Service.lift (listing convert tasks)
  pure ⟨200, some "application/json", none, body⟩

def postTask (body : Body) : Service.Action Response := do
  let m ← Service.lift (body.message messageLimit)
  let t ← Service.createTask m.text
  let id := Value.ofId t.id
  Service.log ⟨logger, Log.info, "created task " ++ id.plain, { taskId := some id }, .none⟩
  pure (plainText 200 ("created new task with ID " ++ id.plain ++ "\n"))

def deleteTask (body : Body) : Service.Action Response := do
  let m ← Service.lift (body.message messageLimit)
  let id ← Service.lift (TaskId.parse m.text)
  let _ ← Service.markDone id
  let idText := Number.integerText id
  Service.log ⟨logger, Log.info, "marked task " ++ idText ++ " done", { taskId := some (.int id) }, .none⟩
  pure (plainText 200 ("task " ++ idText ++ " marked done\n"))

def failureResponse? (f : Failure) : Option Response :=
  match f.reason with
  | .invalidTask _ _ => some (plainText 400 "failed to parse ID (must be int64)")
  | .taskNotFound _ => some (plainText 404 "failed to mark task done: task not found")
  | .store operation _ => some (plainText 500 ("failed to " ++ operation.plain))
  | .disconnected => some (plainText 500 "failed to read message")
  | _ => none

def missingTask? (f : Failure) : Option Value :=
  match f.reason with
  | .taskNotFound id => some id
  | _ => none

def failureRecord (r : Request) (status : Nat) (f : Failure) : Log.Record :=
  ⟨logger, Log.error,
    r.method ++ " " ++ r.urlPath ++ " failed (" ++ Number.naturalText status ++ "): " ++ f.message,
    { taskId := missingTask? f, method := some (.text r.method), path := some (.text r.urlPath),
      status := some (.int status) },
    .none⟩

def unknownRecord (r : Request) (f : Failure) : Log.Record :=
  ⟨logger, Log.error, f.name ++ " on " ++ r.urlPath ++ " (500): " ++ f.message,
    { method := some (.text r.method), path := some (.text r.urlPath), status := some (.int 500) }, .failure f⟩

def answerFailure (r : Request) (f : Failure) (s : Service) : Response × Service :=
  let note := fun (rec : Log.Record) => { s with store := { s.store with journal := s.store.journal ++ [rec] } }
  match failureResponse? f with
  | some response => (response, note (failureRecord r response.status f))
  | none => (plainText 500 "internal server error", note (unknownRecord r f))

def action? (convert : Conversion) (method : String) (body : Body) : Option (Service.Action Response) :=
  match method with
  | "GET" => some (getTasks convert)
  | "POST" => some (postTask body)
  | "DELETE" => some (deleteTask body)
  | _ => none

/-- The router compares a path with a pattern, whose end may stand before a line feed. -/
def isOwnPath (path : String) : Bool := path == "/" || path == "/\n"

def otherEnding (path : String) : String :=
  match path.toList.reverse with
  | '/' :: rest => String.ofList (rest.dropWhile (· == '/')).reverse
  | _ => path ++ "/"

def redirection : Response := ⟨307, none, none, ""⟩

def handle (convert : Conversion) (r : Request) (s : Service) : Response × Service :=
  if isOwnPath r.path then
    match action? convert r.method r.body with
    | none => ({ plainText 405 "Method Not Allowed" with allow := some "GET" }, s)
    | some act =>
      match act s with
      | .ok response s => (response, s)
      | .error f s => answerFailure r f s
  else if isOwnPath (otherEnding r.path) then (redirection, s)
  else (plainText 404 "Not Found", s)

end TaskBoard.Web

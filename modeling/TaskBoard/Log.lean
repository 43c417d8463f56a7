import TaskBoard.Failure
import TaskBoard.Json.Writer
import TaskBoard.Time.Pattern

namespace TaskBoard.Log

def debug : Int := 10

def info : Int := 20

def warning : Int := 30

def error : Int := 40

def critical : Int := 50

def levelName (level : Int) : String :=
  if level == 0 then "NOTSET"
  else if level == debug then "DEBUG"
  else if level == info then "INFO"
  else if level == warning then "WARNING"
  else if level == error then "ERROR"
  else if level == critical then "CRITICAL"
  else "Level " ++ Number.integerText level

/-- What a record is about. A field can be there and still hold nothing. -/
structure Context where
  taskId : Option Value := none
  method : Option Value := none
  path : Option Value := none
  status : Option Value := none
deriving Inhabited

inductive Trouble where
  | none
  | unnamed
  | failure (f : Failure)
deriving Inhabited

structure Record where
  logger : String
  level : Int
  message : String
  context : Context := {}
  trouble : Trouble := .none
deriving Inhabited

open Number Time

def datePattern : String := "%Y-%m-%dT%H:%M:%S"

def timeText (pattern : String) (t : Timestamp) : String :=
  if pattern == "" then Pattern.format "%Y-%m-%d %H:%M:%S" t ++ "," ++ String.ofList (padded 3 (t.micros / 1000))
  else Pattern.format pattern t

def optional (key : String) (v : Option Value) : List (String × Value) :=
  match v with
  | none | some .null => []
  | some v => [(key, v)]

def requestMembers (c : Context) : List (String × Value) :=
  optional "method" c.method ++ optional "path" c.path ++ optional "status" c.status

def troubleMembers (t : Trouble) : List (String × Value) :=
  match t with
  | .failure f =>
    [("error", .map [("type", .text f.name), ("message", .text f.message), ("stack", .text f.stack)])]
  | _ => []

def Record.object (time : String) (r : Record) : Value :=
  let request := requestMembers r.context
  .map ([("time", .text time), ("level", .text (levelName r.level)), ("logger", .text r.logger),
      ("message", .text r.message)] ++
    optional "task_id" r.context.taskId ++ (if request.isEmpty then [] else [("http", .map request)]) ++
    troubleMembers r.trouble)

def jsonLine (pattern : String) (t : Timestamp) (r : Record) : String :=
  Json.write .spaced (r.object (timeText pattern t))

def levelColumn (level : Int) : List Char :=
  let name := (levelName level).toList
  name ++ List.replicate (5 - name.length) ' '

def plainLine (pattern : String) (t : Timestamp) (r : Record) : String :=
  let line := timeText pattern t ++ " " ++ String.ofList (levelColumn r.level) ++ " " ++ r.logger ++ ": " ++ r.message
  let broken := if line.toList.getLast? == some '\n' then line else line ++ "\n"
  match r.trouble with
  | .none => line
  | .unnamed => broken ++ "NoneType: None"
  | .failure f => broken ++ f.stack

structure Setup where
  level : Int
  json : Bool
deriving DecidableEq

def levelNames : List (String × Int) := [
  ("CRITICAL", critical), ("FATAL", critical), ("ERROR", error), ("WARN", warning), ("WARNING", warning),
  ("INFO", info), ("DEBUG", debug), ("NOTSET", 0)]

def level? : Value → Option Int
  | .int n => some n
  | .text s => levelNames.lookup s
  | _ => none

def badHandler : Failure := .value "Unable to configure handler 'stream'"

def Setup.make (level : Value) (form : String) : Except Failure Setup :=
  match level? level with
  | some n => .ok ⟨n, form == "json"⟩
  | none => .error badHandler

def ownLevels : List (String × Int) := [
  ("uvicorn", info), ("uvicorn.error", info), ("uvicorn.access", info), ("google", warning),
  ("google.auth", warning), ("urllib3", warning), ("grpc", warning)]

def ancestors (name : String) : List String :=
  let steps := name.splitOn "."
  ((List.range steps.length).reverse.map fun n => ".".intercalate (steps.take (n + 1)))

def Setup.effectiveLevel (s : Setup) (logger : String) : Int :=
  ((ancestors logger).findSome? fun (name : String) => ownLevels.lookup name).getD s.level

def Setup.writes (s : Setup) (r : Record) : Bool :=
  0 < r.level && s.effectiveLevel r.logger ≤ r.level && s.level ≤ r.level

def Setup.line (s : Setup) (t : Time.Timestamp) (r : Record) : String :=
  if s.json then jsonLine datePattern t r else plainLine datePattern t r

def Setup.filter (s : Setup) (rs : List Record) : List Record := rs.filter s.writes

end TaskBoard.Log

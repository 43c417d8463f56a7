import TaskBoard.Failure
import TaskBoard.Log
import TaskBoard.Number.Digits
import TaskBoard.Settings.Collection
import TaskBoard.Settings.Dotenv
import TaskBoard.Text.LetterCase

namespace TaskBoard

inductive StoreKind where
  | datastore
  | sql
  | memory
deriving DecidableEq, Repr

inductive LineForm where
  | plain
  | json
deriving DecidableEq, Repr

structure Settings where
  host : String := "0.0.0.0"
  port : Int := 8080
  serviceName : Option String := none
  vcapServices : Option String := none
  backend : StoreKind := .datastore
  sqlUrl : String := "sqlite:///data/tasks.db"
  logLevel : Int := Log.info
  logForm : LineForm := .plain

namespace Settings

/-- Where settings come from, the strongest first. The file is absent if there is none. -/
structure Sources where
  arguments : Arguments := []
  environment : List (String × String) := []
  file : Option String := none

def lookUpVariable (name : String) (found : List Dotenv.Binding) : Option String :=
  (found.reverse.find? fun v => Text.lower v.1 == Text.lower name).bind Prod.snd

def fromVariables (names : List String) (found : List Dotenv.Binding) : Option Given :=
  (names.findSome? fun name => lookUpVariable name found).map fun v => ⟨names.headD "", .text v⟩

def Sources.variables (s : Sources) : List Dotenv.Binding := s.environment.map (Prod.map id some)

def Sources.fileVariables (s : Sources) : List Dotenv.Binding :=
  match s.file with
  | some text => Dotenv.read s.environment text
  | none => []

def Sources.given (s : Sources) (collection : Collection) (names : List String) : Option Given :=
  (collection.take names s.arguments).or
    ((fromVariables names s.variables).or (fromVariables names s.fileVariables))

abbrev Check (α : Type) := Value → Except (String × String × Value) α

def checkText : Check String
  | .text s => .ok s
  | v => .error ("string_type", "Input should be a valid string", v)

def checkOptionalText : Check (Option String)
  | .null => .ok none
  | v => (checkText v).map some

def dropZeroFraction (s : List Char) : List Char :=
  let whole := s.takeWhile (· != '.')
  let fraction := s.drop (whole.length + 1)
  if s.length == whole.length || !fraction.all (· == '0') then s else whole

def readWhole (s : List Char) : Option Int := do
  let body := if s.head? == some '+' || s.head? == some '-' then s.tail else s
  let ds ← Number.grouped false (dropZeroFraction body)
  some (if s.head? == some '-' then -(Number.ofDigits ds : Int) else Number.ofDigits ds)

def tooLarge (v : Value) : String × String × Value :=
  ("int_parsing_size", "Unable to parse input string as an integer, exceeded maximum size", v)

def checkWhole : Check Int
  | .int n => .ok n
  | .bool b => .ok (if b then 1 else 0)
  | .text s =>
    let body := Text.trimSpace s.toList
    if 4300 < body.length then .error (tooLarge (.text s))
    else
      match readWhole body with
      | some n => .ok n
      | none =>
        .error ("int_parsing", "Input should be a valid integer, unable to parse string as an integer", .text s)
  | .float x =>
    match x.truncate? with
    | none => .error ("finite_number", "Input should be a finite number", .float x)
    | some n =>
      if !x.isWhole then
        .error ("int_from_float", "Input should be a valid integer, got a number with a fractional part", .float x)
      else if -9223372036854775808 < n && n < 9223372036854775808 then .ok n
      else .error (tooLarge (.float x))
  | v => .error ("int_type", "Input should be a valid integer", v)

def checkWord {α : Type} (choices : String) (words : List (String × α)) : Check α := fun v =>
  match v.text?.bind fun s => words.lookup s with
  | some a => .ok a
  | none => .error ("literal_error", "Input should be " ++ choices, v)

def mapText (f : String → String) : Value → Value
  | .text s => .text (f s)
  | v => v

def checkBackend : Check StoreKind :=
  checkWord "'datastore', 'sql' or 'memory'" [("datastore", .datastore), ("sql", .sql), ("memory", .memory)]

def checkLevel : Check Int := fun v =>
  checkWord "'DEBUG', 'INFO', 'WARNING', 'ERROR' or 'CRITICAL'"
    [("DEBUG", Log.debug), ("INFO", Log.info), ("WARNING", Log.warning), ("ERROR", Log.error),
      ("CRITICAL", Log.critical)]
    (mapText Text.upper v)

def checkForm : Check LineForm := fun v =>
  checkWord "'plain' or 'json'" [("plain", .plain), ("json", .json)] (mapText Text.lower v)

def settle {α : Type} (collection : Collection) (s : Sources) (names : List String) (check : Check α) (default : α) :
    Except Problem α :=
  match s.given collection names with
  | none => .ok default
  | some g =>
    match check g.value with
    | .ok a => .ok a
    | .error (rule, message, v) => .error ⟨[g.name], rule, message, v⟩

def problem? {α : Type} (outcome : Except Problem α) : List Problem :=
  match outcome with
  | .ok _ => []
  | .error p => [p]

def make (collection : Collection) (s : Sources) : Except Failure Settings :=
  let host := settle collection s ["host"] checkText "0.0.0.0"
  let port := settle collection s ["port"] checkWhole 8080
  let serviceName := settle collection s ["service_name"] checkOptionalText none
  let vcapServices := settle collection s ["vcap_services"] checkOptionalText none
  let backend := settle collection s ["TASKLIST_BACKEND", "backend"] checkBackend .datastore
  let sqlUrl := settle collection s ["TASKLIST_SQL_URL", "sql_url"] checkText "sqlite:///data/tasks.db"
  let logLevel := settle collection s ["log_level"] checkLevel Log.info
  let logForm := settle collection s ["log_format"] checkForm .plain
  match host, port, serviceName, vcapServices, backend, sqlUrl, logLevel, logForm with
  | .ok host, .ok port, .ok serviceName, .ok vcapServices, .ok backend, .ok sqlUrl, .ok logLevel, .ok logForm =>
    .ok { host, port, serviceName, vcapServices, backend, sqlUrl, logLevel, logForm }
  | _, _, _, _, _, _, _, _ =>
    .error (.ofReason (.rejected "AppSettings"
      (problem? host ++ problem? port ++ problem? serviceName ++ problem? vcapServices ++ problem? backend ++
        problem? sqlUrl ++ problem? logLevel ++ problem? logForm)))

end Settings

def StoreKind.name : StoreKind → String
  | datastore => "datastore"
  | sql => "sql"
  | memory => "memory"

def LineForm.name : LineForm → String
  | plain => "plain"
  | json => "json"

end TaskBoard

import TaskBoard.Entries
import TaskBoard.Failure
import TaskBoard.Number.Digits
import TaskBoard.Store.Database
import TaskBoard.Text.LetterCase

namespace TaskBoard

structure Url where
  dialect : String
  authority : List Char
  database : Option (List Char)

namespace Url

def isNameChar (c : Char) : Bool := c.isAlphanum || c == '_' || c == '+' || Text.isCased c

def isHostChar (c : Char) : Bool := c != '/' && c != '?'

def badPort? (authority : List Char) : Option Failure :=
  let address := (authority.reverse.takeWhile (· != '@')).reverse
  let port := (address.dropWhile (· != ':')).tail
  if port.isEmpty || (Number.whole? (String.ofList port)).isSome then none
  else some (.value ("invalid literal for int() with base 10: " ++ String.ofList (Text.quotedChars port)))

def unreadable : Failure :=
  .ofReason (.database .badUrl [.text "not the URL of a database"])

def read (s : String) : Except Failure Url :=
  let name := s.toList.takeWhile isNameChar
  match name, s.toList.drop name.length with
  | c :: rest, ':' :: '/' :: '/' :: left =>
    let authority := left.takeWhile isHostChar
    match badPort? authority with
    | some f => .error f
    | none =>
      match left.drop authority.length with
      | '/' :: path => .ok ⟨String.ofList (c :: rest), authority, some (path.takeWhile (· != '?'))⟩
      | _ => .ok ⟨String.ofList (c :: rest), authority, none⟩
  | _, _ => .error unreadable

def hasAuthority (u : Url) : Bool := !(u.authority.all fun c => c == '@' || c == ':')

def fileDialects : List String := ["sqlite", "sqlite+pysqlite"]

def missingDrivers : List (String × String) := [
  ("sqlite+aiosqlite", "aiosqlite"),
  ("postgresql", "psycopg2"), ("postgresql+psycopg2", "psycopg2"), ("postgresql+psycopg", "psycopg"),
  ("postgresql+asyncpg", "asyncpg"), ("postgresql+pg8000", "pg8000"),
  ("mysql", "MySQLdb"), ("mysql+mysqldb", "MySQLdb"), ("mysql+pymysql", "pymysql"), ("mysql+aiomysql", "aiomysql"),
  ("mysql+mysqlconnector", "mysql"), ("mysql+asyncmy", "asyncmy"), ("mysql+pyodbc", "pyodbc"),
  ("mariadb", "MySQLdb"), ("mariadb+mysqldb", "MySQLdb"), ("mariadb+pymysql", "pymysql"),
  ("mariadb+mariadbconnector", "mariadb"),
  ("oracle", "cx_Oracle"), ("oracle+cx_oracle", "cx_Oracle"), ("oracle+oracledb", "oracledb"),
  ("mssql", "pyodbc"), ("mssql+pyodbc", "pyodbc"), ("mssql+pymssql", "pymssql"), ("mssql+aioodbc", "aioodbc")]

def unusableDialect (dialect : String) : Failure :=
  match missingDrivers.lookup dialect with
  | some driver => .ofReason (.general .missingDriver [.text ("No module named '" ++ driver ++ "'")])
  | none => .ofReason (.database .noSuchDialect [.text ("no such dialect: " ++ dialect)])

def localDatabase (u : Url) : Except Failure (List Char) :=
  if !fileDialects.contains u.dialect then .error (unusableDialect u.dialect)
  else if u.hasAuthority then .error unreadable
  else .ok (u.database.getD [])

end Url

inductive Location where
  | volatile
  | file (path : String)
deriving DecidableEq

structure Disk where
  databases : List (String × Database) := []
  folders : List String := []
deriving Inhabited

def pathSteps (path : List Char) : List String :=
  ((path.splitOn '/').map String.ofList).filter fun step => step != "" && step != "."

def resolveSteps (steps : List String) : List String :=
  steps.foldl (fun found step => if step == ".." then found.dropLast else found ++ [step]) []

def joinSteps (steps : List String) : String := "/".intercalate steps

namespace Disk

def isFile (disk : Disk) (path : String) : Bool := disk.databases.any fun d => d.1 == path

def makeFolders (disk : Disk) (path : List Char) : Except Failure Disk :=
  let steps := (pathSteps path).dropLast
  let folders := (List.range steps.length).map fun n => joinSteps (resolveSteps (steps.take (n + 1)))
  let named := Value.literal (.text (joinSteps steps))
  if folders.dropLast.any disk.isFile then
    .error (.ofReason (.general .notFolder [.text ("[Errno 20] Not a directory: " ++ named)]))
  else if folders.any disk.isFile then
    .error (.ofReason (.general .fileExists [.text ("[Errno 17] File exists: " ++ named)]))
  else .ok { disk with folders := disk.folders ++ folders.filter fun f => f != "" && !disk.folders.contains f }

/-- Whether the folder is there that a file is to be in. Folders elsewhere are taken to be there. -/
def hasFolderOf (disk : Disk) (path : String) : Bool :=
  let folder := joinSteps (pathSteps path.toList).dropLast
  path.toList.head? == some '/' || folder == "" || disk.folders.contains folder

def isAbsolute (path : List Char) : Bool := path.head? == some '/'

def listing (disk : Disk) : List String :=
  let relative := (disk.databases.map Prod.fst).filter fun p => !isAbsolute p.toList
  (relative ++ disk.folders).mergeSort fun a b => a ≤ b

end Disk

namespace Location

def cannotOpen : Failure := Database.fault .operational "unable to open database file"

def filePart (url : List Char) : Option (List Char) :=
  if "sqlite:///".toList.isPrefixOf url then some (url.drop 10) else none

def ofUrl (url : String) : Except Failure Location := do
  let path ← (← Url.read url).localDatabase
  let plain := joinSteps (resolveSteps (pathSteps path))
  if path.isEmpty || path == ":memory:".toList then pure volatile
  else if plain == "" then throw cannotOpen
  else pure (file (if Disk.isAbsolute path then "/" ++ plain else plain))

def makeFolders (url : String) (disk : Disk) : Except Failure Disk :=
  match filePart url.toList with
  | some path => if path == ":memory:".toList || Disk.isAbsolute path then .ok disk else disk.makeFolders path
  | none => .ok disk

def urlOfPath (path : String) : String :=
  let steps := joinSteps (pathSteps path.toList)
  "sqlite:///" ++ (if Disk.isAbsolute path.toList then "/" else "") ++ (if steps == "" then "." else steps)

end Location

structure OpenedDatabase where
  location : Location
  database : Database

def Disk.openDatabase (disk : Disk) (url : String) : Except Failure OpenedDatabase × Disk :=
  match Location.ofUrl url with
  | .error f => (.error f, disk)
  | .ok .volatile => (.ok ⟨.volatile, {}⟩, disk)
  | .ok (.file path) =>
    if disk.folders.contains path || !disk.hasFolderOf path then (.error Location.cannotOpen, disk)
    else
      let d := ((disk.databases.lookup path).getD ⟨none⟩).prepare
      (.ok ⟨.file path, d⟩, { disk with databases := Entries.assign path d disk.databases })

def Disk.openUrl (disk : Disk) (url : String) : Except Failure OpenedDatabase × Disk :=
  match Location.makeFolders url disk with
  | .error f => (.error f, disk)
  | .ok disk => disk.openDatabase url

def Disk.keep (disk : Disk) (o : OpenedDatabase) : Disk :=
  match o.location with
  | .volatile => disk
  | .file path => { disk with databases := Entries.assign path o.database disk.databases }

end TaskBoard

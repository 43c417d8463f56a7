import TaskBoard.Value

namespace TaskBoard

inductive CallStatus where
  | serviceUnavailable
  | aborted
  | notFound
  | deadlineExceeded
  | permissionDenied
  | unauthenticated
deriving DecidableEq, Repr

inductive AuthFault where
  | general
  | defaultCredentials
  | malformed
  | refresh
  | transport
deriving DecidableEq, Repr

inductive DatabaseFault where
  | general
  | noSuchTable
  | integrity
  | operational
  | statement
  | badUrl
  | noSuchDialect
deriving DecidableEq, Repr

inductive GeneralFault where
  | value
  | runtime
  | os
  | fileExists
  | notFolder
  | missingDriver
  | key
  | type
  | lookup
  | overflow
  | missingAttribute
  | jsonSyntax
  | base64
  | unicodeDecoding
  | markup
deriving DecidableEq, Repr

structure Problem where
  location : List String
  rule : String
  message : String
  given : Value
deriving Inhabited

inductive Reason where
  | domain (args : List Value)
  | invalidTask (field message : Value)
  | taskNotFound (id : Value)
  | store (operation detail : Value)
  | credentials (args : List Value)
  | call (status : CallStatus) (args : List Value)
  | api (args : List Value)
  | retry (args : List Value)
  | auth (kind : AuthFault) (args : List Value)
  | database (kind : DatabaseFault) (args : List Value)
  | general (kind : GeneralFault) (args : List Value)
  | disconnected
  | rejected (record : String) (problems : List Problem)
deriving Inhabited

structure Failure where
  reason : Reason
  cause : Option Failure := none
deriving Inhabited

namespace CallStatus

def name : CallStatus → String
  | serviceUnavailable => "ServiceUnavailable"
  | aborted => "Aborted"
  | notFound => "NotFound"
  | deadlineExceeded => "DeadlineExceeded"
  | permissionDenied => "PermissionDenied"
  | unauthenticated => "Unauthenticated"

def code : CallStatus → Nat
  | serviceUnavailable => 503
  | aborted => 409
  | notFound => 404
  | deadlineExceeded => 504
  | permissionDenied => 403
  | unauthenticated => 401

end CallStatus

def AuthFault.name : AuthFault → String
  | general => "GoogleAuthError"
  | defaultCredentials => "DefaultCredentialsError"
  | malformed => "MalformedError"
  | refresh => "RefreshError"
  | transport => "TransportError"

def DatabaseFault.name : DatabaseFault → String
  | general => "SQLAlchemyError"
  | noSuchTable => "NoSuchTableError"
  | integrity => "IntegrityError"
  | operational => "OperationalError"
  | statement => "InterfaceError"
  | badUrl => "ArgumentError"
  | noSuchDialect => "NoSuchModuleError"

def GeneralFault.name : GeneralFault → String
  | value => "ValueError"
  | runtime => "RuntimeError"
  | os => "OSError"
  | fileExists => "FileExistsError"
  | notFolder => "NotADirectoryError"
  | missingDriver => "ModuleNotFoundError"
  | key => "KeyError"
  | type => "TypeError"
  | lookup => "LookupError"
  | overflow => "OverflowError"
  | missingAttribute => "AttributeError"
  | jsonSyntax => "JSONDecodeError"
  | base64 => "Error"
  | unicodeDecoding => "UnicodeDecodeError"
  | markup => "MarkupError"

def argumentsText : List Value → String
  | [] => ""
  | [v] => v.plain
  | vs => Value.tupleLiteral vs

namespace Problem

def givenText (p : Problem) : String :=
  let s := p.given.literal.toList
  if s.length ≤ 50 then String.ofList s
  else String.ofList (s.take 25 ++ "...".toList ++ s.drop (s.length - 24))

def report (p : Problem) : String :=
  ".".intercalate p.location ++ "\n  " ++ p.message ++ " [type=" ++ p.rule ++ ", input_value=" ++ p.givenText ++
    ", input_type=" ++ p.given.kind ++ "]"

end Problem

namespace Reason

def name : Reason → String
  | domain _ => "DomainError"
  | invalidTask _ _ => "TaskValidationError"
  | taskNotFound _ => "TaskNotFoundError"
  | store _ _ => "StoreError"
  | credentials _ => "CredentialsError"
  | call status _ => status.name
  | api _ => "GoogleAPIError"
  | retry _ => "RetryError"
  | auth kind _ => kind.name
  | database kind _ => kind.name
  | general kind _ => kind.name
  | disconnected => "ClientDisconnect"
  | rejected _ _ => "ValidationError"

def message : Reason → String
  | domain args | credentials args | api args | auth _ args => argumentsText args
  | invalidTask field message => "invalid " ++ field.plain ++ ": " ++ message.plain
  | taskNotFound id => "task " ++ id.plain ++ " does not exist"
  | store operation detail => "failed to " ++ operation.plain ++ ": " ++ detail.plain
  | call status args => Number.naturalText status.code ++ " " ++ (args.head?.getD Value.null).plain
  | retry args => (args.head?.getD Value.null).plain ++ ", last exception: " ++ (args[1]?.getD Value.null).plain
  | database _ [v] => v.plain
  | database _ args => Value.tupleLiteral args
  | general .key [v] => v.literal
  | general .os [code, text] => "[Errno " ++ code.plain ++ "] " ++ text.plain
  | general _ args => argumentsText args
  | disconnected => ""
  | rejected record problems =>
    let count := problems.length
    Number.naturalText count ++ " validation error" ++ (if count == 1 then "" else "s") ++ " for " ++ record ++
      String.join (problems.map fun p => "\n" ++ p.report)

end Reason

namespace Failure

def name (f : Failure) : String := f.reason.name

def message (f : Failure) : String := f.reason.message

def isDomain (f : Failure) : Bool :=
  match f.reason with
  | .domain _ | .invalidTask _ _ | .taskNotFound _ | .store _ _ | .credentials _ => true
  | _ => false

def isCall (f : Failure) : Bool :=
  match f.reason with
  | .call _ _ => true
  | _ => false

def isAuth (f : Failure) : Bool :=
  match f.reason with
  | .auth _ _ => true
  | _ => false

def isDatabase (f : Failure) : Bool :=
  match f.reason with
  | .database _ _ => true
  | _ => false

def isValue (f : Failure) : Bool :=
  match f.reason with
  | .general .value _ | .general .jsonSyntax _ | .general .base64 _ | .general .unicodeDecoding _ => true
  | .auth .malformed _ => true
  | .rejected _ _ => true
  | _ => false

def isOs (f : Failure) : Bool :=
  match f.reason with
  | .general .os _ | .general .fileExists _ | .general .notFolder _ => true
  | _ => false

def isTaskNotFound (f : Failure) : Bool :=
  match f.reason with
  | .taskNotFound _ => true
  | _ => false

def qualifiedName (f : Failure) : String :=
  match f.reason with
  | .domain _ | .invalidTask _ _ | .taskNotFound _ | .store _ _ | .credentials _ => "tasklist.domain.errors." ++ f.name
  | .call _ _ | .api _ | .retry _ => "google.api_core.exceptions." ++ f.name
  | .auth _ _ => "google.auth.exceptions." ++ f.name
  | .database _ _ => "sqlalchemy.exc." ++ f.name
  | .general .jsonSyntax _ => "json.decoder." ++ f.name
  | .general .base64 _ => "binascii." ++ f.name
  | .general .markup _ => "rich.errors." ++ f.name
  | .general _ _ => f.name
  | .disconnected => "starlette.requests." ++ f.name
  | .rejected _ _ => "pydantic_core._pydantic_core." ++ f.name

def line (f : Failure) : String :=
  let m := f.message
  if m.isEmpty then f.qualifiedName else f.qualifiedName ++ ": " ++ m

def stack : Failure → String
  | f@⟨_, none⟩ => f.line
  | f@⟨_, some cause⟩ =>
    stack cause ++ "\n\nThe above exception was the direct cause of the following exception:\n\n" ++ f.line

def because (reason : Reason) (cause : Failure) : Failure := ⟨reason, some cause⟩

def ofReason (reason : Reason) : Failure := ⟨reason, none⟩

def value (text : String) : Failure := ofReason (.general .value [.text text])

def type (text : String) : Failure := ofReason (.general .type [.text text])

def overflow (text : String) : Failure := ofReason (.general .overflow [.text text])

def markup (text : String) : Failure := ofReason (.general .markup [.text text])

def missingAttribute (v : Value) (name : String) : Failure :=
  ofReason (.general .missingAttribute [.text ("'" ++ v.qualifiedKind ++ "' object has no attribute '" ++ name ++ "'")])

def invalidTask (field message : String) : Failure := ofReason (.invalidTask (.text field) (.text message))

def taskNotFound (id : Int) : Failure := ofReason (.taskNotFound (.int id))

def store (operation : String) (cause : Failure) : Failure :=
  because (.store (.text operation) (.text cause.message)) cause

def credentials (text : String) : Failure := ofReason (.credentials [.text text])

def credentialsBecause (text : String) (cause : Failure) : Failure := because (.credentials [.text text]) cause

end Failure

end TaskBoard

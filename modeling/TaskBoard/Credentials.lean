import TaskBoard.Json.Reader
import TaskBoard.Log
import TaskBoard.Text.Base64

namespace TaskBoard.Credentials

open Json

structure Grant where
  credentials : String
  project : Value

abbrev Loader := Json.Members → Except Failure Grant

structure Load where
  info : Json.Members
  scopes : List String

structure Attempt where
  result : Except Failure Grant
  loads : List Load := []
  journal : List Log.Record := []

def scope : String := "https://www.googleapis.com/auth/datastore"

def logger : String := "tasklist.adapters.datastore.credentials"


def hasName (name : String) (members : Members) : Bool :=
  ((members.lookup (.ofString "name")).bind Document.text?) == some (.ofString name)

def bindings (name : String) (v : Document) : List Members :=
  match v with
  | .list items => (items.filterMap Document.members?).filter (hasName name)
  | _ => []

/-- The entry under a service's name if it is an object, and then every binding of that name, in document order. -/
def candidates (name : String) (services : Members) : List Members :=
  ((services.lookup (.ofString name)).bind Document.members?).toList ++
    (Entries.values services).flatMap (bindings name)

def services (text : String) : Except Failure Members :=
  match Json.read text.toList with
  | .ok (.map members) => .ok members
  | .ok _ => .error (.credentials "VCAP_SERVICES must be a JSON object")
  | .error f =>
    match f.reason with
    | .general .jsonSyntax _ => .error (.credentialsBecause ("VCAP_SERVICES is not valid JSON: " ++ f.message) f)
    | _ => .error f

def encodedKey (name : String) (services : Members) : Except Failure Script :=
  match candidates name services with
  | [] => .error (.credentials (name ++ " service is not bound (not found in VCAP_SERVICES)"))
  | service :: _ =>
    match service.lookup (.ofString "credentials") with
    | some (.map credentials) =>
      match credentials.lookup (.ofString "PrivateKeyData") with
      | some (.text encoded) => .ok encoded
      | _ => .error (.credentials (name ++ " credentials do not have PrivateKeyData"))
    | _ => .error (.credentials (name ++ " service does not have credentials"))

def isAscii (s : List Char) : Bool := s.all fun c => c.toNat < 0x80

def notAscii : Failure := .value "string argument should contain only ASCII characters"

def decodeBase64 (s : List Char) : Except Failure (List UInt8) :=
  if !isAscii s then .error notAscii
  else
    match Text.Base64.decode s with
    | .ok octets => .ok octets
    | .error fault => .error (.ofReason (.general .base64 [.text fault.message]))

def decodeScript (s : Script) : Except Failure (List UInt8) :=
  match s.chars? with
  | some chars => decodeBase64 chars
  | none => .error notAscii

def keyDocument (encoded : Script) : Except Failure Members :=
  match (do Json.readOctets (← decodeScript encoded) : Except Failure Document) with
  | .ok (.map info) => .ok info
  | .ok _ => .error (.credentials "decoded PrivateKeyData is not a JSON object")
  | .error f => .error (.credentialsBecause ("failed to base64 decode credentials: " ++ f.message) f)

def noService : Failure :=
  .credentials "SERVICE_NAME is required. It tells us which service to use to connect to datastore"

def find (serviceName vcapServices : Option String) : Except Failure (String × Members) := do
  let name := serviceName.getD ""
  if name == "" then throw noService
  let services ← services (vcapServices.getD "")
  let encoded ← encodedKey name services
  pure (name, ← keyDocument encoded)

def loaderFailure (f : Failure) : Failure :=
  if f.isAuth || f.isValue then .credentialsBecause ("failed to load credentials: " ++ f.message) f else f

def obtain (loader : Loader) (serviceName vcapServices : Option String) : Attempt :=
  match find serviceName vcapServices with
  | .error f => { result := .error f }
  | .ok (name, info) =>
    let loads := [⟨info, [scope]⟩]
    match loader info with
    | .error f => { result := .error (loaderFailure f), loads }
    | .ok grant =>
      let text := "loaded datastore credentials for service " ++ name ++ " (project " ++ grant.project.plain ++ ")"
      { result := .ok grant, loads, journal := [⟨logger, Log.info, text, {}, .none⟩] }

end TaskBoard.Credentials

import TaskBoard.Number.Binary64
import TaskBoard.Text.Printable
import TaskBoard.Time.Iso
import TaskBoard.Time.Timestamp

/-! Free-form values: what documents, entity properties and log attributes hold. -/

namespace TaskBoard

open Number Time

/-- The members of a map keep their order; no key occurs twice. -/
inductive Value where
  | null
  | bool (b : Bool)
  | int (n : Int)
  | float (x : Binary64)
  | text (s : String)
  | time (t : Timestamp)
  | list (items : List Value)
  | map (members : List (String × Value))
deriving Inhabited

namespace Value

def text? : Value → Option String
  | text s => some s
  | _ => none

def members? : Value → Option (List (String × Value))
  | map members => some members
  | _ => none

def truth : Value → Bool
  | null => false
  | bool b => b
  | int n => n != 0
  | float x => !x.isZero
  | text s => !s.isEmpty
  | time _ => true
  | list items => !items.isEmpty
  | map members => !members.isEmpty

def ofId (id : Option Int) : Value := (id.map int).getD null

def kind : Value → String
  | null => "NoneType"
  | bool _ => "bool"
  | int _ => "int"
  | float _ => "float"
  | text _ => "str"
  | time _ => "datetime"
  | list _ => "list"
  | map _ => "dict"

def qualifiedKind : Value → String
  | time _ => "datetime.datetime"
  | v => v.kind

def number? : Value → Option Binary64
  | bool b => some (.ofInt b.toNat)
  | int n => some (.ofInt n)
  | float x => some x
  | _ => none

mutual

/-- Numbers are compared across their kinds and times as instants; a float that is no number equals nothing. -/
def same : Value → Value → Bool
  | null, null => true
  | text s, text t => s == t
  | time s, time t => s.sameTime t
  | list vs, list ws => sameItems vs ws
  | map ms, map ns => ms.length == ns.length && sameMembers ms ns
  | v, w =>
    match v.number?, w.number? with
    | some x, some y => x.same y
    | _, _ => false

def sameItems : List Value → List Value → Bool
  | [], [] => true
  | v :: vs, w :: ws => same v w && sameItems vs ws
  | _, _ => false

def sameMembers : List (String × Value) → List (String × Value) → Bool
  | [], _ => true
  | (key, v) :: ms, ns =>
    (match ns.lookup key with
    | some w => same v w
    | none => false) && sameMembers ms ns

end

mutual

def before? : Value → Value → Except (Value × Value) Bool
  | text s, text t => .ok (s < t)
  | time s, time t =>
    match s.earlier? t with
    | some b => .ok b
    | none => .error (time s, time t)
  | list vs, list ws => itemsBefore? vs ws
  | v, w =>
    match v.number?, w.number? with
    | some x, some y => .ok (x.less y)
    | _, _ => .error (v, w)

def itemsBefore? : List Value → List Value → Except (Value × Value) Bool
  | _, [] => .ok false
  | [], _ :: _ => .ok true
  | v :: vs, w :: ws => if same v w then itemsBefore? vs ws else before? v w

end

def zoneLiteral (offset : Int) : String :=
  if offset == 0 then "datetime.timezone.utc" else "datetime.timezone(" ++ ReadError.lengthText offset ++ ")"

def timeLiteral (t : Timestamp) : String :=
  let d := t.date
  let fields := [d.year, d.month, d.day, t.hour, t.minute] ++
    (if t.second == 0 && t.micros == 0 then [] else [t.second]) ++ (if t.micros == 0 then [] else [t.micros])
  let zone := (t.offset.map fun o => ", tzinfo=" ++ zoneLiteral o).getD ""
  "datetime.datetime(" ++ ", ".intercalate (fields.map naturalText) ++ zone ++ ")"

mutual

def literal : Value → String
  | null => "None"
  | bool b => if b then "True" else "False"
  | int n => integerText n
  | float x => x.text
  | text s => Text.quoted s
  | time t => timeLiteral t
  | list items => "[" ++ ", ".intercalate (itemLiterals items) ++ "]"
  | map members => "\x7b" ++ ", ".intercalate (memberLiterals members) ++ "\x7d"

def itemLiterals : List Value → List String
  | [] => []
  | v :: rest => literal v :: itemLiterals rest

def memberLiterals : List (String × Value) → List String
  | [] => []
  | (key, v) :: rest => (Text.quoted key ++ ": " ++ literal v) :: memberLiterals rest

end

def plain : Value → String
  | text s => s
  | time t => t.spaced
  | v => v.literal

def tupleLiteral : List Value → String
  | [v] => "(" ++ v.literal ++ ",)"
  | vs => "(" ++ ", ".intercalate (itemLiterals vs) ++ ")"

end TaskBoard.Value

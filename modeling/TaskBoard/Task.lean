import TaskBoard.Failure
import TaskBoard.Number.Digits

namespace TaskBoard.TaskId

open Number

def least : Int := -9223372036854775808

def greatest : Int := 9223372036854775807

def inRange (n : Int) : Bool := least ≤ n && n ≤ greatest

structure Numeral where
  negative : Bool
  digits : List Char

def Numeral.value (n : Numeral) : Int := if n.negative then -(ofDigits n.digits : Int) else ofDigits n.digits

def numeral? (s : List Char) : Option Numeral :=
  let unsigned := if s.head? == some '+' || s.head? == some '-' then s.tail else s
  if !unsigned.isEmpty && unsigned.all isDigit then some ⟨s.head? == some '-', unsigned⟩ else none

def tooLong (count : Nat) : Failure :=
  .value ("Exceeds the limit (" ++ naturalText digitLimit ++
    " digits) for integer string conversion: value has " ++ naturalText count ++
    " digits; use sys.set_int_max_str_digits() to increase the limit")

def parse (raw : String) : Except Failure Int :=
  let s := Text.trim raw.toList
  match numeral? s with
  | none => .error (.invalidTask "id" (String.ofList (Text.quotedChars s) ++ " is not an integer"))
  | some n =>
    if digitLimit < n.digits.length then .error (tooLong n.digits.length)
    else if inRange n.value then .ok n.value
    else .error (.invalidTask "id" (String.ofList s ++ " is out of int64 range"))

end TaskBoard.TaskId

namespace TaskBoard

open Time

/-- A clock with readings laid down in advance, of which the last repeats, or one that moves on at each reading. -/
inductive Clock where
  | scripted (next : Timestamp) (later : List Timestamp)
  | ticking (start : Timestamp) (step : Int) (readings : Nat)

namespace Clock

def outOfRange : Failure := .overflow "date value out of range"

def reading : Clock → Except Failure Timestamp
  | scripted next _ => .ok next
  | ticking start step readings =>
    match start.shift? (step * readings) with
    | some t => .ok t
    | none => .error outOfRange

def advance : Clock → Clock
  | scripted next [] => scripted next []
  | scripted _ (t :: later) => scripted t later
  | ticking start step readings => ticking start step (readings + 1)

end Clock

/--
A task has an id once a store has given it one. Unless a store holds something else, the description is a text, in which
no half of a surrogate pair stands alone, and the time of creation a reading with a fixed offset or without one.
-/
structure Task where
  description : Value
  created : Value
  done : Bool := false
  id : Option Int := none

abbrev Change := Task → Except Failure Task

namespace Task

def complete (t : Task) : Task := { t with done := true }

def unordered : Value × Value → Failure
  | (.time _, .time _) => .type "can't compare offset-naive and offset-aware datetimes"
  | (v, w) =>
    .type ("'<' not supported between instances of '" ++ v.qualifiedKind ++ "' and '" ++ w.qualifiedKind ++ "'")

def precedes? (s t : Task) : Except Failure Bool :=
  (Value.itemsBefore? [s.created, .ofId s.id] [t.created, .ofId t.id]).mapError unordered

def notAfter (s t : Task) : Bool :=
  match precedes? t s with
  | .ok before => !before
  | .error _ => false

def place : Nat → Task → List Task → Except Failure (List Task)
  | 0, t, sorted => .ok (t :: sorted)
  | fuel + 1, t, sorted =>
    match sorted.drop (sorted.length / 2) with
    | [] => .ok [t]
    | middle :: upper => do
      let lower := sorted.take (sorted.length / 2)
      if ← precedes? t middle then do pure ((← place fuel t lower) ++ middle :: upper)
      else do pure (lower ++ middle :: (← place fuel t upper))

def followRun (falling : Bool) (last : Task) (taken : List Task) : List Task → Except Failure (List Task × List Task)
  | [] => .ok (taken, [])
  | t :: rest => do
    if (← precedes? t last) == falling then followRun falling t (t :: taken) rest else pure (taken, t :: rest)

def firstRun : List Task → Except Failure (List Task × List Task)
  | [] => .ok ([], [])
  | [s] => .ok ([s], [])
  | s :: t :: rest => do
    let falling ← precedes? t s
    let (taken, left) ← followRun falling t [t, s] rest
    pure (if falling then taken else taken.reverse, left)

def placeAll (sorted : List Task) : List Task → Except Failure Unit
  | [] => .ok ()
  | t :: rest => do placeAll (← place sorted.length t sorted) rest

/-- Makes the comparisons of a sort that extends the first run, and fails where the first of them does. -/
def checkOrder (tasks : List Task) : Except Failure Unit := do
  let (run, rest) ← firstRun tasks
  placeAll run rest

def inOrder (tasks : List Task) : Except Failure (List Task) := do
  checkOrder tasks
  pure (tasks.mergeSort notAfter)

end Task

end TaskBoard

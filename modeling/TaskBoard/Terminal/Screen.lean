import TaskBoard.Task
import TaskBoard.Time.Pattern

/-! What the program shows: framed notices, the table of tasks and lines of text, all with markup in brackets. -/

namespace TaskBoard.Terminal

inductive Colour where
  | green
  | yellow
  | red
deriving DecidableEq, Repr

def Colour.name : Colour → String
  | green => "green"
  | yellow => "yellow"
  | red => "red"

inductive Item where
  | panel (text title : String) (border : Colour)
  | table (columns : List String) (rows : List (List String))
  | text (s : String)
deriving DecidableEq, Repr

/--
What is shown is read as markup, and an item may be refused for it, such as a closing tag that closes nothing. Then
this is the text of the complaint, and nothing of the item is shown.
-/
abbrev Console := Item → Option String

def dim (s : String) : String := "[dim]" ++ s ++ "[/dim]"

def doneMark (done : Bool) : String := if done then "[green]done[/]" else "[red]open[/]"

def columns : List String := ["ID", "Description", "Created", "Done"]

def createdCell : Value → Except Failure String
  | .time t => .ok (Time.Pattern.format "%Y-%m-%d %H:%M:%S" t)
  | v => .error (.missingAttribute v "strftime")

def row (t : Task) : Except Failure (List String) := do
  let created ← createdCell t.created
  pure [(Value.ofId t.id).plain, t.description.plain, created, doneMark t.done]

def taskTable (tasks : List Task) : Except Failure (List Item) := do
  let rows ← tasks.mapM row
  pure [.table columns rows, .text (dim ("Razem: " ++ Number.naturalText tasks.length))]

def describe (t : Task) : String := dim "Description:" ++ " " ++ t.description.plain

def createdPanel (t : Task) : Item :=
  .panel ("✅ created new task with ID " ++ (Value.ofId t.id).plain ++ "\n" ++ describe t) "Sukces" .green

def donePanel (t : Task) : Item :=
  .panel ("✅ task " ++ (Value.ofId t.id).plain ++ " marked done\n" ++ describe t ++ "\nStatus: " ++ doneMark t.done)
    "Sukces" .green

def deletedPanel (id : Int) : Item := .panel ("🟡 task " ++ Number.integerText id ++ " deleted") "Usunięto" .yellow

structure Notice where
  text : String
  title : String
deriving DecidableEq, Repr

def Notice.panel (n : Notice) : Item := .panel ("❌ " ++ n.text) n.title .red

namespace Notice

def ofFailure (f : Failure) : Option Notice := if f.isDomain then some ⟨f.message, "Błąd domenowy"⟩ else none

def ofDeletion (f : Failure) : Option Notice :=
  match f.reason with
  | .invalidTask _ _ => some ⟨f.message ++ "\n[dim]ID musi być liczbą całkowitą (int64)[/]", "Błąd walidacji"⟩
  | _ => ofFailure f

def ofCompletion (f : Failure) : Option Notice :=
  match f.reason with
  | .taskNotFound _ =>
    some ⟨f.message ++ "\n[dim]Użyj 'tasklist list', żeby znaleźć poprawne ID[/]", "Nie znaleziono"⟩
  | _ => ofDeletion f

def ofSettings (f : Failure) : Option Notice :=
  match f.reason with
  | .rejected _ _ => some ⟨f.message, "Błąd konfiguracji"⟩
  | _ => none

end Notice

end TaskBoard.Terminal

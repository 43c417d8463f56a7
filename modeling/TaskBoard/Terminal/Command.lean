import TaskBoard.Number.Digits

namespace TaskBoard.Terminal

structure OptionForm where
  name : String
  long : List String := []
  short : Option Char := none
  takesValue : Bool := true

structure Parsed where
  options : List (String × String) := []
  words : List String := []

def Parsed.given (p : Parsed) (name : String) : Bool := p.options.any fun o => o.1 == name

def Parsed.value? (p : Parsed) (name : String) : Option String :=
  (p.options.reverse.find? fun o => o.1 == name).map Prod.snd

structure Shown where
  form : OptionForm
  attached : Option String

def long? (forms : List OptionForm) (word : String) : Option Shown :=
  let spelling := String.ofList (word.toList.takeWhile (· != '='))
  let attached := (word.toList.dropWhile (· != '=')).tail?.map String.ofList
  (forms.find? fun f => f.long.contains spelling).map fun f => ⟨f, attached⟩

def short? (forms : List OptionForm) (word : String) : Option Shown :=
  match word.toList with
  | '-' :: c :: rest =>
    (forms.find? fun f => f.short == some c).map fun f => ⟨f, if rest.isEmpty then none else some (String.ofList rest)⟩
  | _ => none

def isOption (word : String) : Bool := word.toList.head? == some '-' && word != "-"

/--
Sorts words into options and other words; none if an option is not known, lacks its value or has one that it does
not take. Two dashes end the options. If options must come first, so does the first other word.
-/
def sortWords (forms : List OptionForm) (optionsFirst : Bool) : List String → Option Parsed
  | [] => some {}
  | word :: rest =>
    if word == "--" then some { words := rest }
    else if !isOption word then
      if optionsFirst then some { words := word :: rest }
      else (sortWords forms optionsFirst rest).map fun p => { p with words := word :: p.words }
    else
      match (long? forms word).or (short? forms word) with
      | none => none
      | some ⟨form, some value⟩ =>
        if form.takesValue then
          (sortWords forms optionsFirst rest).map fun p => { p with options := (form.name, value) :: p.options }
        else none
      | some ⟨form, none⟩ =>
        if !form.takesValue then
          (sortWords forms optionsFirst rest).map fun p => { p with options := (form.name, "") :: p.options }
        else
          match rest with
          | [] => none
          | value :: rest =>
            (sortWords forms optionsFirst rest).map fun p => { p with options := (form.name, value) :: p.options }

inductive Command where
  | serve (host : Option String) (port : Option Int)
  | create (description : String)
  | list
  | complete (id : String)
  | delete (id : String)
deriving DecidableEq, Repr

inductive Refusal where
  | help
  | misuse
deriving DecidableEq, Repr

def Refusal.exitCode : Refusal → Nat
  | help => 0
  | misuse => 2

structure Call where
  backend : Option String
  command : String
  words : List String

def helpForm : OptionForm := { name := "help", long := ["--help"], takesValue := false }

def backendForm : OptionForm := { name := "backend", long := ["--backend"], short := some 'b' }

def hostForm : OptionForm := { name := "host", long := ["--host"] }

def portForm : OptionForm := { name := "port", long := ["--port"], short := some 'p' }

def commandNames : List String := ["serve", "new", "list", "done", "delete"]

def Call.read (line : List String) : Except Refusal Call :=
  match sortWords [backendForm, helpForm] true line with
  | none => .error .misuse
  | some p =>
    if p.given "help" then .error .help
    else
      match p.words with
      | name :: words =>
        if commandNames.contains name then .ok ⟨p.value? "backend", name, words⟩ else .error .misuse
      | [] => .error .misuse

def single? : List String → Option String
  | [word] => some word
  | _ => none

def Call.parsed (c : Call) (forms : List OptionForm) : Except Refusal Parsed :=
  match sortWords (helpForm :: forms) false c.words with
  | none => .error .misuse
  | some p => if p.given "help" then .error .help else .ok p

def Call.command? (c : Call) : Except Refusal Command :=
  match c.command with
  | "serve" => do
    let p ← c.parsed [hostForm, portForm]
    let port ← match p.value? "port" with
      | none => pure none
      | some text => match Number.whole? text with
        | some n => pure (some n)
        | none => throw .misuse
    if p.words.isEmpty then pure (.serve (p.value? "host") port) else throw .misuse
  | "list" => do
    let p ← c.parsed []
    if p.words.isEmpty then pure .list else throw .misuse
  | name => do
    let p ← c.parsed []
    match single? p.words with
    | none => throw .misuse
    | some word => pure (if name == "new" then .create word else if name == "done" then .complete word else .delete word)

end TaskBoard.Terminal

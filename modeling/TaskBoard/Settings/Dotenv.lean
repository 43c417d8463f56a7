import TaskBoard.Entries
import TaskBoard.Number.Digits

namespace TaskBoard.Dotenv

open Text

abbrev Binding := String × Option String

def isLineEnd (c : Char) : Bool := c == '\n' || c == '\r'

def isGap (c : Char) : Bool := isBlank c && !isLineEnd c

def skipGaps (s : List Char) : List Char := s.dropWhile isGap

def normalLines : List Char → List Char
  | [] => []
  | '\r' :: '\n' :: rest => '\n' :: normalLines rest
  | c :: rest => (if c == '\r' then '\n' else c) :: normalLines rest

def skipLine (s : List Char) : List Char := (s.dropWhile fun c => !isLineEnd c).drop 1

def skipExport (s : List Char) : List Char :=
  let rest := s.drop 6
  if "export".toList.isPrefixOf s && (rest.head?.map isGap).getD false then skipGaps rest else s

def key? (s : List Char) : Option (Option String × List Char) :=
  match s with
  | '#' :: _ => some (none, s)
  | '\'' :: rest =>
    let name := rest.takeWhile (· != '\'')
    match rest.drop name.length with
    | _ :: left => if name.isEmpty then none else some (some (String.ofList name), left)
    | [] => none
  | _ =>
    let name := s.takeWhile fun c => c != '=' && c != '#' && !isBlank c
    if name.isEmpty then none else some (some (String.ofList name), s.drop name.length)

/--
What stands before the closing quote, and what follows it. A quote behind a backslash closes only if no later one
does; the flag says that a backslash came before.
-/
def quotedValue? (quote : Char) (backslash : Bool) : List Char → Option (List Char × List Char)
  | [] => none
  | c :: rest =>
    if c != quote then (quotedValue? quote (c == '\\') rest).map fun r => (c :: r.1, r.2)
    else if !backslash then some ([], rest)
    else
      match quotedValue? quote false rest with
      | some (value, left) => some (c :: value, left)
      | none => some ([], rest)

def escaped? (double : Bool) (c : Char) : Option Char :=
  match c with
  | '\\' => some '\\'
  | '\'' => some '\''
  | c =>
    if !double then none
    else
      match c with
      | '"' => some '"'
      | 'a' => some '\x07'
      | 'b' => some '\x08'
      | 'f' => some '\x0c'
      | 'n' => some '\n'
      | 'r' => some '\r'
      | 't' => some '\t'
      | 'v' => some '\x0b'
      | _ => none

def unescape (double : Bool) : List Char → List Char
  | [] => []
  | [c] => [c]
  | c :: d :: rest =>
    if c == '\\' then
      match escaped? double d with
      | some e => e :: unescape double rest
      | none => c :: unescape double (d :: rest)
    else c :: unescape double (d :: rest)

def dropComment : List Char → List Char
  | [] => []
  | c :: rest =>
    if isBlank c && (rest.dropWhile isBlank).head? == some '#' then [] else c :: dropComment rest

def value? (s : List Char) : Option (List Char × List Char) :=
  match s with
  | '\'' :: rest => (quotedValue? '\'' false rest).map fun r => (unescape false r.1, r.2)
  | '"' :: rest => (quotedValue? '"' false rest).map fun r => (unescape true r.1, r.2)
  | _ =>
    let line := s.takeWhile fun c => !isLineEnd c
    some (trimEnd (dropComment line), s.drop line.length)

def endLine? (s : List Char) : Option (List Char) :=
  let rest := skipGaps s
  let rest := if rest.head? == some '#' then rest.dropWhile fun c => !isLineEnd c else rest
  match rest with
  | [] => some []
  | c :: left => if isLineEnd c then some left else none

def orStop {α : Type} (place : List Char) (part : Option α) : Except (List Char) α :=
  match part with
  | some a => .ok a
  | none => .error place

def line (s : List Char) : Except (List Char) (Option Binding × List Char) := do
  let start := skipExport s
  let (name, rest) ← orStop start (key? start)
  let rest := skipGaps rest
  let (value, rest) ← match rest with
    | '=' :: after => do
      let (value, rest) ← orStop (skipGaps after) (value? (skipGaps after))
      pure (some (String.ofList value), rest)
    | _ => pure (none, rest)
  let left ← orStop rest (endLine? rest)
  pure (name.map fun n => (n, value), left)

def bindings : Nat → List Char → List Binding
  | 0, _ => []
  | fuel + 1, s =>
    match s.dropWhile isBlank with
    | [] => []
    | s =>
      match line s with
      | .ok (some b, rest) => b :: bindings fuel rest
      | .ok (none, rest) => bindings fuel rest
      | .error place => bindings fuel (skipLine place)

def reference? (s : List Char) : Option (String × Option String × List Char) :=
  let name := s.takeWhile fun c => c != '\x7d' && c != ':'
  match s.drop name.length with
  | '\x7d' :: rest => some (String.ofList name, none, rest)
  | ':' :: '-' :: rest =>
    let default := rest.takeWhile (· != '\x7d')
    match rest.drop default.length with
    | _ :: left => some (String.ofList name, some (String.ofList default), left)
    | [] => none
  | _ => none

def expand (known : String → Option (Option String)) : Nat → List Char → List Char
  | _, [] => []
  | 0, s => s
  | fuel + 1, c :: rest =>
    match (if c == '$' && rest.head? == some '\x7b' then reference? rest.tail else none) with
    | some (name, default, left) => (((known name).getD default).getD "").toList ++ expand known fuel left
    | none => c :: expand known fuel rest

/-- The values of a file, in which a later line can refer to an earlier one and to the environment. -/
def resolve (environment : List (String × String)) (bs : List Binding) : List Binding :=
  bs.foldl (fun found b =>
    let known := fun (name : String) =>
      match found.lookup name with
      | some v => some v
      | none => (environment.lookup name).map some
    Entries.assign b.1 (b.2.map fun v => String.ofList (expand known v.length v.toList)) found) []

def read (environment : List (String × String)) (text : String) : List Binding :=
  let s := normalLines text.toList
  resolve environment (bindings (s.length + 1) s)

end TaskBoard.Dotenv

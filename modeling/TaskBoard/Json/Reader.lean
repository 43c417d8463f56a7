import TaskBoard.Entries
import TaskBoard.Json.Document
import TaskBoard.Number.Digits
import TaskBoard.Task
import TaskBoard.Text.Encoding

namespace TaskBoard.Json

open Number

inductive Fault where
  | value
  | name
  | colon
  | comma
  | unterminated
  | control
  | escape
  | unicodeEscape
  | extra
  | byteOrderMark
  | tooManyDigits (count : Nat)
deriving DecidableEq

structure Flaw where
  fault : Fault
  left : Nat
deriving DecidableEq

def flawAt {α : Type} (fault : Fault) (rest : List Char) : Except Flaw α := .error ⟨fault, rest.length⟩

def isSpace (c : Char) : Bool := c == ' ' || c == '\t' || c == '\n' || c == '\r'

def skipSpace (s : List Char) : List Char := s.dropWhile isSpace

def unitPiece (n : Nat) : Piece := if 0xD800 ≤ n && n ≤ 0xDFFF then .unit n else .char (Char.ofNat n)

def joinPieces : List Piece → Script
  | [] => []
  | .char c :: rest => .char c :: joinPieces rest
  | .unit n :: .unit m :: rest =>
    if 0xD800 ≤ n && n ≤ 0xDBFF && 0xDC00 ≤ m && m ≤ 0xDFFF then
      .char (Char.ofNat (0x10000 + (n - 0xD800) * 0x400 + (m - 0xDC00))) :: joinPieces rest
    else unitPiece n :: joinPieces (.unit m :: rest)
  | .unit n :: rest => unitPiece n :: joinPieces rest

inductive TextState where
  | plain
  | escape (mark : List Char)
  | digits (mark : List Char) (count unit : Nat)

def simpleEscape? (c : Char) : Option Char :=
  match c with
  | '"' => some '"'
  | '\\' => some '\\'
  | '/' => some '/'
  | 'b' => some '\x08'
  | 'f' => some '\x0c'
  | 'n' => some '\n'
  | 'r' => some '\r'
  | 't' => some '\t'
  | _ => none

def scanText (start : List Char) (state : TextState) : List Char → Except Flaw (List Piece × List Char)
  | [] =>
    match state with
    | .digits mark _ _ => flawAt .unicodeEscape mark
    | _ => flawAt .unterminated start
  | c :: rest =>
    match state with
    | .plain =>
      if c == '"' then .ok ([], rest)
      else if c == '\\' then scanText start (.escape (c :: rest)) rest
      else if c.toNat < 0x20 then flawAt .control (c :: rest)
      else do
        let (pieces, left) ← scanText start .plain rest
        pure (.char c :: pieces, left)
    | .escape mark =>
      if c == 'u' then scanText start (.digits (c :: rest) 0 0) rest
      else
        match simpleEscape? c with
        | some e => do
          let (pieces, left) ← scanText start .plain rest
          pure (.char e :: pieces, left)
        | none => flawAt .escape mark
    | .digits mark count unit =>
      match hexValue? c with
      | none => flawAt .unicodeEscape mark
      | some d =>
        if count < 3 then scanText start (.digits mark (count + 1) (unit * 16 + d)) rest
        else if rest.isEmpty then flawAt .unicodeEscape mark
        else do
          let (pieces, left) ← scanText start .plain rest
          pure (.unit (unit * 16 + d) :: pieces, left)

def readText (rest : List Char) : Except Flaw (Script × List Char) := do
  let (pieces, left) ← scanText ('"' :: rest) .plain rest
  pure (joinPieces pieces, left)

def wholeDigits (s : List Char) : List Char :=
  match s with
  | '0' :: _ => ['0']
  | _ => s.takeWhile isDigit

def fractionDigits (s : List Char) : List Char :=
  match s with
  | '.' :: rest => rest.takeWhile isDigit
  | _ => []

def exponent? (s : List Char) : Option (Bool × List Char × List Char) :=
  match s with
  | e :: rest =>
    if e == 'e' || e == 'E' then
      let signed := rest.head? == some '+' || rest.head? == some '-'
      let ds := (if signed then rest.tail else rest)
      if (ds.takeWhile isDigit).isEmpty then none
      else some (rest.head? == some '-', ds.takeWhile isDigit, ds.dropWhile isDigit)
    else none
  | [] => none

def readNumber (s : List Char) : Except Flaw (Document × List Char) :=
  let negative := s.head? == some '-'
  let unsigned := if negative then s.tail else s
  let whole := wholeDigits unsigned
  if whole.isEmpty then flawAt .value s
  else
    let afterWhole := unsigned.drop whole.length
    let fraction := fractionDigits afterWhole
    let afterFraction := if fraction.isEmpty then afterWhole else afterWhole.drop (fraction.length + 1)
    let float := fun (e : Int) =>
      Document.float (.ofDecimal negative (ofDigits (whole ++ fraction)) (e - fraction.length))
    match exponent? afterFraction with
    | some (down, ds, rest) => .ok (float (if down then -(ofDigits ds : Int) else ofDigits ds), rest)
    | none =>
      if !fraction.isEmpty then .ok (float 0, afterFraction)
      else if Number.digitLimit < whole.length then .error ⟨.tooManyDigits whole.length, s.length⟩
      else .ok (.int (if negative then -(ofDigits whole : Int) else ofDigits whole), afterWhole)

def words : List (List Char × Document) := [
  ("null".toList, .null), ("true".toList, .bool true), ("false".toList, .bool false), ("NaN".toList, .float .nan),
  ("Infinity".toList, .float (.infinite false)), ("-Infinity".toList, .float (.infinite true))]

def readWordOrNumber (s : List Char) : Except Flaw (Document × List Char) :=
  match words.find? fun w => w.1.isPrefixOf s with
  | some w => .ok (w.2, s.drop w.1.length)
  | none => readNumber s

mutual

/-- Reads one value at the start of the input. The first argument bounds the number of steps. -/
def readValue : Nat → List Char → Except Flaw (Document × List Char)
  | 0, s => flawAt .value s
  | fuel + 1, s =>
    match s with
    | '"' :: rest => do
      let (text, left) ← readText rest
      pure (.text text, left)
    | '[' :: rest =>
      match skipSpace rest with
      | ']' :: left => .ok (.list [], left)
      | inner => do
        let (items, left) ← readItems fuel inner
        pure (.list items, left)
    | '\x7b' :: rest =>
      match skipSpace rest with
      | '\x7d' :: left => .ok (.map [], left)
      | inner => do
        let (members, left) ← readMembers fuel inner
        pure (.map (Entries.assignAll members), left)
    | _ => readWordOrNumber s

def readItems : Nat → List Char → Except Flaw (List Document × List Char)
  | 0, s => flawAt .value s
  | fuel + 1, s => do
    let (item, rest) ← readValue fuel s
    match skipSpace rest with
    | ']' :: left => pure ([item], left)
    | ',' :: later => do
      let (items, left) ← readItems fuel (skipSpace later)
      pure (item :: items, left)
    | other => flawAt .comma other

def readMembers : Nat → List Char → Except Flaw (Members × List Char)
  | 0, s => flawAt .name s
  | fuel + 1, s =>
    match s with
    | '"' :: inner => do
      let (key, rest) ← readText inner
      match skipSpace rest with
      | ':' :: after => do
        let (item, rest) ← readValue fuel (skipSpace after)
        match skipSpace rest with
        | '\x7d' :: left => pure ([(key, item)], left)
        | ',' :: later => do
          let (members, left) ← readMembers fuel (skipSpace later)
          pure ((key, item) :: members, left)
        | other => flawAt .comma other
      | other => flawAt .colon other
    | _ => flawAt .name s

end

def readDocument (s : List Char) : Except Flaw Document := do
  let (v, rest) ← readValue (2 * s.length + 2) (skipSpace s)
  match skipSpace rest with
  | [] => pure v
  | extra => flawAt .extra extra

def readChars (s : List Char) : Except Flaw Document :=
  if s.head? == some '\uFEFF' then flawAt .byteOrderMark s else readDocument s

namespace Fault

def message : Fault → String
  | value => "Expecting value"
  | name => "Expecting property name enclosed in double quotes"
  | colon => "Expecting ':' delimiter"
  | comma => "Expecting ',' delimiter"
  | unterminated => "Unterminated string starting at"
  | control => "Invalid control character at"
  | escape => "Invalid \\escape"
  | unicodeEscape => "Invalid \\uXXXX escape"
  | extra => "Extra data"
  | byteOrderMark => "Unexpected UTF-8 BOM (decode using utf-8-sig)"
  | tooManyDigits count => (TaskId.tooLong count).message

end Fault

def Flaw.message (flaw : Flaw) (s : List Char) : String :=
  let place := s.length - flaw.left
  let before := s.take place
  let line := before.count '\n' + 1
  let column := (before.reverse.takeWhile (· != '\n')).length + 1
  flaw.fault.message ++ ": line " ++ naturalText line ++ " column " ++ naturalText column ++ " (char " ++
    naturalText place ++ ")"

def Flaw.failure (flaw : Flaw) (s : List Char) : Failure :=
  match flaw.fault with
  | .tooManyDigits count => TaskId.tooLong count
  | _ => .ofReason (.general .jsonSyntax [.text (flaw.message s)])

def orFailure (s : List Char) (outcome : Except Flaw Document) : Except Failure Document :=
  match outcome with
  | .ok v => .ok v
  | .error flaw => .error (flaw.failure s)

def read (s : List Char) : Except Failure Document := orFailure s (readChars s)

def readOctets (octets : List UInt8) : Except Failure Document :=
  match Text.decodeDocument octets with
  | .ok s => orFailure s (readDocument s)
  | .error f => .error (.ofReason (.general .unicodeDecoding [.text f.message]))

end TaskBoard.Json

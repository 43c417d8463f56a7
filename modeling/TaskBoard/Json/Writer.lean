import TaskBoard.Number.Digits
import TaskBoard.Time.Iso
import TaskBoard.Value

namespace TaskBoard.Json

open Number

structure Layout where
  afterComma : List Char
  afterColon : List Char
  asciiOnly : Bool

def Layout.compact : Layout := ⟨[], [], false⟩

def Layout.spaced : Layout := ⟨[' '], [' '], false⟩

def Layout.ascii : Layout := ⟨[' '], [' '], true⟩

def unitEscape (n : Nat) : List Char := '\\' :: 'u' :: hex 4 n

def unicodeEscape (c : Char) : List Char :=
  let n := c.toNat
  if n < 0x10000 then unitEscape n
  else unitEscape (0xD800 + (n - 0x10000) / 0x400) ++ unitEscape (0xDC00 + (n - 0x10000) % 0x400)

def escapeChar (asciiOnly : Bool) (c : Char) : List Char :=
  if c == '"' then ['\\', '"']
  else if c == '\\' then ['\\', '\\']
  else if c == '\n' then ['\\', 'n']
  else if c == '\r' then ['\\', 'r']
  else if c == '\t' then ['\\', 't']
  else if c.toNat == 8 then ['\\', 'b']
  else if c.toNat == 12 then ['\\', 'f']
  else if c.toNat < 0x20 || (asciiOnly && c.toNat > 0x7E) then unicodeEscape c
  else [c]

def textChars (layout : Layout) (s : List Char) : List Char :=
  '"' :: s.flatMap (escapeChar layout.asciiOnly) ++ ['"']

def floatChars (x : Binary64) : List Char :=
  match x with
  | .nan => "NaN".toList
  | .infinite negative => if negative then "-Infinity".toList else "Infinity".toList
  | x => x.chars

mutual

def chars (layout : Layout) : Value → List Char
  | .null => ['n', 'u', 'l', 'l']
  | .bool b => if b then ['t', 'r', 'u', 'e'] else ['f', 'a', 'l', 's', 'e']
  | .int n => signed n
  | .float x => floatChars x
  | .text s => textChars layout s.toList
  | .time t => textChars layout (t.isoChars ' ')
  | .list [] => ['[', ']']
  | .list (v :: rest) => '[' :: chars layout v ++ itemChars layout rest
  | .map [] => ['\x7b', '\x7d']
  | .map ((key, v) :: rest) =>
    '\x7b' :: textChars layout key.toList ++ ':' :: layout.afterColon ++ chars layout v ++ memberChars layout rest

def itemChars (layout : Layout) : List Value → List Char
  | [] => [']']
  | v :: rest => ',' :: layout.afterComma ++ chars layout v ++ itemChars layout rest

def memberChars (layout : Layout) : List (String × Value) → List Char
  | [] => ['\x7d']
  | (key, v) :: rest =>
    ',' :: layout.afterComma ++ textChars layout key.toList ++ ':' :: layout.afterColon ++ chars layout v ++
      memberChars layout rest

end

def write (layout : Layout) (v : Value) : String := String.ofList (chars layout v)

end TaskBoard.Json

import TaskBoard.Number.Digits
import TaskBoard.Text.Utf8

namespace TaskBoard.Text

open Number

inductive Encoding where
  | utf8
  | utf16 (bigEndian : Bool)
  | utf32 (bigEndian : Bool)
deriving DecidableEq

namespace Encoding

def name : Encoding → String
  | utf8 => "utf-8"
  | utf16 bigEndian => if bigEndian then "utf-16-be" else "utf-16-le"
  | utf32 bigEndian => if bigEndian then "utf-32-be" else "utf-32-le"

def detect (octets : List UInt8) : Encoding × Nat :=
  match octets with
  | 0x00 :: 0x00 :: 0xFE :: 0xFF :: _ => (utf32 true, 4)
  | 0xFF :: 0xFE :: 0x00 :: 0x00 :: _ => (utf32 false, 4)
  | 0xFE :: 0xFF :: _ => (utf16 true, 2)
  | 0xFF :: 0xFE :: _ => (utf16 false, 2)
  | 0xEF :: 0xBB :: 0xBF :: _ => (utf8, 3)
  | a :: b :: c :: d :: _ =>
    if a == 0 then (if b == 0 then utf32 true else utf16 true, 0)
    else if b == 0 then (if c == 0 && d == 0 then utf32 false else utf16 false, 0)
    else (utf8, 0)
  | [a, b] => if a == 0 then (utf16 true, 0) else if b == 0 then (utf16 false, 0) else (utf8, 0)
  | _ => (utf8, 0)

end Encoding

structure DecodeFault where
  encoding : Encoding
  start : Nat
  octets : List UInt8
  flaw : String

def DecodeFault.message (f : DecodeFault) : String :=
  "'" ++ f.encoding.name ++ "' codec can't decode " ++
    (match f.octets with
      | [b] => "byte 0x" ++ String.ofList (hex 2 b.toNat) ++ " in position " ++ naturalText f.start
      | bs => "bytes in position " ++ naturalText f.start ++ "-" ++ naturalText (f.start + bs.length - 1)) ++
    ": " ++ f.flaw

def isSurrogateForm : Utf8.Piece → Utf8.Piece → Utf8.Piece → Bool
  | .broken [0xED] _, .broken [b] _, .broken [c] _ => 0xA0 ≤ b && b ≤ 0xBF && 0x80 ≤ c && c ≤ 0xBF
  | _, _, _ => false

/-- All characters, or the first broken piece with its place. A surrogate becomes one U+FFFD. -/
def strictChars (start : Nat) : List Utf8.Piece → Except DecodeFault (List Char)
  | [] => .ok []
  | .char c size :: rest => do pure (c :: (← strictChars (start + size) rest))
  | .broken octets flaw :: p :: q :: rest =>
    if isSurrogateForm (.broken octets flaw) p q then do
      pure (Utf8.replacement :: (← strictChars (start + 3) rest))
    else .error ⟨.utf8, start, octets, flaw.message⟩
  | .broken octets flaw :: _ => .error ⟨.utf8, start, octets, flaw.message⟩

def unit16 (bigEndian : Bool) (a b : UInt8) : Nat :=
  if bigEndian then a.toNat * 256 + b.toNat else b.toNat * 256 + a.toNat

def units16 (bigEndian : Bool) (start : Nat) : List UInt8 → Except DecodeFault (List Nat)
  | [] => .ok []
  | [b] => .error ⟨.utf16 bigEndian, start, [b], "truncated data"⟩
  | a :: b :: rest => do pure (unit16 bigEndian a b :: (← units16 bigEndian (start + 2) rest))

def joinUnits : List Nat → List Char
  | [] => []
  | n :: m :: rest =>
    if 0xD800 ≤ n && n ≤ 0xDBFF && 0xDC00 ≤ m && m ≤ 0xDFFF then
      Char.ofNat (0x10000 + (n - 0xD800) * 0x400 + (m - 0xDC00)) :: joinUnits rest
    else (if 0xD800 ≤ n && n ≤ 0xDFFF then Utf8.replacement else Char.ofNat n) :: joinUnits (m :: rest)
  | n :: rest => (if 0xD800 ≤ n && n ≤ 0xDFFF then Utf8.replacement else Char.ofNat n) :: joinUnits rest

def chars32 (bigEndian : Bool) (start : Nat) : List UInt8 → Except DecodeFault (List Char)
  | [] => .ok []
  | a :: b :: c :: d :: rest =>
    let n := if bigEndian then unit16 true a b * 65536 + unit16 true c d else unit16 false c d * 65536 + unit16 false a b
    if n > 0x10FFFF then .error ⟨.utf32 bigEndian, start, [a, b, c, d], "code point not in range(0x110000)"⟩
    else do
      pure ((if 0xD800 ≤ n && n ≤ 0xDFFF then Utf8.replacement else Char.ofNat n) ::
        (← chars32 bigEndian (start + 4) rest))
  | rest => .error ⟨.utf32 bigEndian, start, rest, "truncated data"⟩

def decodeDocument (octets : List UInt8) : Except DecodeFault (List Char) :=
  match Encoding.detect octets with
  | (.utf8, mark) => strictChars 0 (Utf8.pieces (octets.drop mark))
  | (.utf16 bigEndian, mark) => do pure (joinUnits (← units16 bigEndian mark (octets.drop mark)))
  | (.utf32 bigEndian, mark) => chars32 bigEndian mark (octets.drop mark)

end TaskBoard.Text

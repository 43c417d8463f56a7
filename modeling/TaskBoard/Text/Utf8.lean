namespace TaskBoard.Text.Utf8

def replacement : Char := '\uFFFD'

def encodeChars (s : List Char) : List UInt8 := s.flatMap String.utf8EncodeChar

def encode (s : String) : List UInt8 := encodeChars s.toList

structure Unfinished where
  octets : List UInt8
  bits : Nat
  missing : Nat
  low : Nat
  high : Nat
deriving DecidableEq

inductive Flaw where
  | start
  | continuation
  | ended
deriving DecidableEq

def Flaw.message : Flaw → String
  | start => "invalid start byte"
  | continuation => "invalid continuation byte"
  | ended => "unexpected end of data"

inductive Piece where
  | char (c : Char) (size : Nat)
  | broken (octets : List UInt8) (flaw : Flaw)
deriving DecidableEq

def Piece.size : Piece → Nat
  | char _ size => size
  | broken octets _ => octets.length

def Piece.lossy : Piece → Char
  | char c _ => c
  | broken _ _ => replacement

def begin (b : UInt8) : List Piece × Option Unfinished :=
  let n := b.toNat
  if n < 0x80 then ([.char (Char.ofNat n) 1], none)
  else if n < 0xC2 then ([.broken [b] .start], none)
  else if n < 0xE0 then ([], some ⟨[b], n - 0xC0, 1, 0x80, 0xBF⟩)
  else if n < 0xF0 then
    ([], some ⟨[b], n - 0xE0, 2, if n == 0xE0 then 0xA0 else 0x80, if n == 0xED then 0x9F else 0xBF⟩)
  else if n < 0xF5 then
    ([], some ⟨[b], n - 0xF0, 3, if n == 0xF0 then 0x90 else 0x80, if n == 0xF4 then 0x8F else 0xBF⟩)
  else ([.broken [b] .start], none)

def step (unfinished : Option Unfinished) (b : UInt8) : List Piece × Option Unfinished :=
  match unfinished with
  | none => begin b
  | some u =>
    if u.low ≤ b.toNat ∧ b.toNat ≤ u.high then
      let octets := u.octets ++ [b]
      let bits := u.bits * 64 + (b.toNat - 0x80)
      if u.missing ≤ 1 then ([.char (Char.ofNat bits) octets.length], none)
      else ([], some ⟨octets, bits, u.missing - 1, 0x80, 0xBF⟩)
    else
      let (pieces, next) := begin b
      (.broken u.octets .continuation :: pieces, next)

def run (unfinished : Option Unfinished) : List UInt8 → List Piece × Option Unfinished
  | [] => ([], unfinished)
  | b :: rest =>
    let (pieces, next) := step unfinished b
    let (more, last) := run next rest
    (pieces ++ more, last)

def finish : Option Unfinished → List Piece
  | none => []
  | some u => [.broken u.octets .ended]

def pieces (octets : List UInt8) : List Piece :=
  let (settled, last) := run none octets
  settled ++ finish last

/-- Every broken sequence becomes one U+FFFD. -/
def decodeLossy (octets : List UInt8) : List Char := (pieces octets).map Piece.lossy

theorem run_append (unfinished : Option Unfinished) (xs ys : List UInt8) :
    run unfinished (xs ++ ys) =
      ((run unfinished xs).1 ++ (run (run unfinished xs).2 ys).1, (run (run unfinished xs).2 ys).2) := by
  induction xs generalizing unfinished with
  | nil => rfl
  | cons x xs ih => simp [run, ih]

end TaskBoard.Text.Utf8

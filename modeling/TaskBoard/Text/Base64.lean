namespace TaskBoard.Text.Base64

def alphabet : List Char := "ABCDEFGHIJKLMNOPQRSTUVWXYZabcdefghijklmnopqrstuvwxyz0123456789+/".toList

def digit (n : Nat) : Char := (alphabet[n]?).getD 'A'

def value? (c : Char) : Option Nat :=
  let n := c.toNat
  if 'A' ≤ c ∧ c ≤ 'Z' then some (n - 65)
  else if 'a' ≤ c ∧ c ≤ 'z' then some (n - 71)
  else if '0' ≤ c ∧ c ≤ '9' then some (n + 4)
  else if c = '+' then some 62
  else if c = '/' then some 63
  else none

def encode : List UInt8 → List Char
  | [] => []
  | [a] => [digit (a.toNat / 4), digit (a.toNat % 4 * 16), '=', '=']
  | [a, b] => [digit (a.toNat / 4), digit (a.toNat % 4 * 16 + b.toNat / 16), digit (b.toNat % 16 * 4), '=']
  | a :: b :: c :: rest =>
    digit (a.toNat / 4) :: digit (a.toNat % 4 * 16 + b.toNat / 16) :: digit (b.toNat % 16 * 4 + c.toNat / 64) ::
      digit (c.toNat % 64) :: encode rest

inductive Fault where
  | leadingPadding
  | excessData
  | foreignCharacter
  | brokenPadding
  | lonelyCharacter (count : Nat)
  | missingPadding
deriving DecidableEq

def Fault.message : Fault → String
  | leadingPadding => "Leading padding not allowed"
  | excessData => "Excess data after padding"
  | foreignCharacter => "Only base64 data is allowed"
  | brokenPadding => "Discontinuous padding not allowed"
  | lonelyCharacter count =>
    "Invalid base64-encoded string: number of data characters (" ++ String.ofList (Nat.toDigits 10 count) ++
      ") cannot be 1 more than a multiple of 4"
  | missingPadding => "Incorrect padding"

structure State where
  place : Nat := 0
  bits : Nat := 0
  pads : Nat := 0
  padding : Bool := false
  octets : Nat := 0

def finish (s : State) : Except Fault (List UInt8) :=
  match s.place with
  | 0 => .ok []
  | 1 => .error (.lonelyCharacter (s.octets / 3 * 4 + 1))
  | _ => .error .missingPadding

def decodeFrom (s : State) : List Char → Except Fault (List UInt8)
  | [] => finish s
  | c :: rest =>
    if c == '=' then
      let pads := if s.place ≥ 2 then s.pads + 1 else s.pads
      if s.place ≥ 2 && s.place + pads ≥ 4 then
        if rest.isEmpty then .ok [] else .error .excessData
      else decodeFrom { s with pads, padding := true } rest
    else
      match value? c with
      | none => .error .foreignCharacter
      | some v =>
        if s.padding then .error .brokenPadding
        else
          match s.place with
          | 0 => decodeFrom { s with place := 1, bits := v, pads := 0 } rest
          | 1 => do
            let more ← decodeFrom { s with place := 2, bits := v % 16, pads := 0, octets := s.octets + 1 } rest
            pure (UInt8.ofNat (s.bits * 4 + v / 16) :: more)
          | 2 => do
            let more ← decodeFrom { s with place := 3, bits := v % 4, pads := 0, octets := s.octets + 1 } rest
            pure (UInt8.ofNat (s.bits * 16 + v / 4) :: more)
          | _ => do
            let more ← decodeFrom { s with place := 0, bits := 0, pads := 0, octets := s.octets + 1 } rest
            pure (UInt8.ofNat (s.bits * 64 + v) :: more)

def decode (s : List Char) : Except Fault (List UInt8) :=
  if s.head? == some '=' then .error .leadingPadding else decodeFrom {} s

end TaskBoard.Text.Base64

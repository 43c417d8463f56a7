import TaskBoard.Number.Digits

/-! Floating-point numbers of 64 bits, held exactly, and their shortest decimal texts. -/

namespace TaskBoard.Number

/-- A finite number is `mantissa * 2 ^ exponent`, with at most 53 bits of mantissa and no exponent below -1074. -/
inductive Binary64 where
  | nan
  | infinite (negative : Bool)
  | finite (negative : Bool) (mantissa : Nat) (exponent : Int)
deriving DecidableEq, Repr

def roundHalfEven (num den : Nat) : Nat :=
  let q := num / den
  let r := num % den
  if 2 * r < den then q else if den < 2 * r then q + 1 else if q % 2 == 0 then q else q + 1

namespace Binary64

def unitExponent (num den : Nat) : Int :=
  let guess : Int := (Nat.log2 num : Int) - Nat.log2 den
  let top := if num * twoTo (-guess).toNat < den * twoTo guess.toNat then guess - 1 else guess
  max (top - 52) (-1074)

def ofQuotient (negative : Bool) (num den : Nat) : Binary64 :=
  if num == 0 then .finite negative 0 (-1074)
  else
    let e := unitExponent num den
    let m := roundHalfEven (num * twoTo (-e).toNat) (den * twoTo e.toNat)
    let (m, e) := if m == twoTo 53 then (twoTo 52, e + 1) else (m, e)
    if e > 971 then .infinite negative else .finite negative m e

def ofDecimal (negative : Bool) (digits : Nat) (exponent : Int) : Binary64 :=
  let size : Int := (Number.digits digits).length + exponent
  if digits == 0 || size < -330 then .finite negative 0 (-1074)
  else if size > 310 then .infinite negative
  else ofQuotient negative (digits * tenTo exponent.toNat) (tenTo (-exponent).toNat)

def ofInt (n : Int) : Binary64 := .finite (n < 0) n.natAbs 0

def isZero : Binary64 → Bool
  | finite _ 0 _ => true
  | _ => false

def quotient (mantissa : Nat) (exponent : Int) : Nat × Nat := (mantissa * twoTo exponent.toNat, twoTo (-exponent).toNat)

def less : Binary64 → Binary64 → Bool
  | nan, _ | _, nan => false
  | infinite below, infinite below' => below && !below'
  | infinite below, finite .. => below
  | finite .., infinite below => !below
  | finite negative m e, finite negative' m' e' =>
    let (num, den) := quotient m e
    let (num', den') := quotient m' e'
    let left : Int := if negative then -(num * den') else num * den'
    let right : Int := if negative' then -(num' * den) else num' * den
    left < right

def same (x y : Binary64) : Bool := x != nan && y != nan && !x.less y && !y.less x

def truncate? : Binary64 → Option Int
  | finite negative m e =>
    let (num, den) := quotient m e
    some (if negative then -(num / den : Int) else (num / den : Int))
  | _ => none

def isWhole : Binary64 → Bool
  | finite _ m e =>
    let (num, den) := quotient m e
    num % den == 0
  | _ => false

def pointPlace (num den : Nat) : Int :=
  let guess : Int := (Number.digits num).length - (Number.digits den).length
  let reaches := fun (p : Int) => den * tenTo p.toNat ≤ num * tenTo (-p).toNat
  if reaches guess then guess + 1 else guess

/--
The nearest decimal with `count` digits among those that read back as the number; its digits and the place of its
last one. An exact tie goes to the even digit.
-/
def decimalOfLength? (mantissa : Nat) (exponent : Int) (count : Nat) : Option (Nat × Int) :=
  let (num, den) := quotient mantissa exponent
  let place := pointPlace num den - count
  -- the value, its half gaps and the grid, all as multiples of one unit
  let scaleUp := tenTo (-place).toNat
  let step := 4 * den * tenTo place.toNat
  let value := 4 * num * scaleUp
  let gap := 2 * twoTo exponent.toNat * scaleUp
  let lowGap := if mantissa == twoTo 52 && exponent > -1074 then gap / 2 else gap
  let closed := mantissa % 2 == 0
  let readsBack := fun (n : Nat) =>
    let at' := n * step
    if at' ≤ value then (if closed then value - at' ≤ lowGap else value - at' < lowGap)
    else if closed then at' - value ≤ gap else at' - value < gap
  let below := value / step
  let low := readsBack below
  let high := readsBack (below + 1)
  if low && high then
    let nearest := roundHalfEven value step
    some (nearest, place)
  else if low then some (below, place)
  else if high then some (below + 1, place)
  else none

def shortest (mantissa : Nat) (exponent : Int) : Nat × Int :=
  ((List.range' 1 17).findSome? (decimalOfLength? mantissa exponent)).getD (0, 0)

def significant (digits : Nat) (place : Int) : List Char × Int :=
  let ds := Number.digits digits
  (((ds.reverse.dropWhile (· == '0')).reverse), ds.length + place)

def exponentChars (e : Int) : List Char := (if e < 0 then '-' else '+') :: padded 2 e.natAbs

def positionalOrScaled (ds : List Char) (point : Int) : List Char :=
  if -4 < point && point ≤ 16 then
    if point ≤ 0 then '0' :: '.' :: List.replicate (-point).toNat '0' ++ ds
    else if ds.length ≤ point.toNat then ds ++ List.replicate (point.toNat - ds.length) '0' ++ ['.', '0']
    else ds.take point.toNat ++ '.' :: ds.drop point.toNat
  else
    match ds with
    | [] => []
    | [d] => d :: 'e' :: exponentChars (point - 1)
    | d :: rest => d :: '.' :: rest ++ 'e' :: exponentChars (point - 1)

def chars : Binary64 → List Char
  | nan => ['n', 'a', 'n']
  | infinite negative => if negative then ['-', 'i', 'n', 'f'] else ['i', 'n', 'f']
  | finite negative m e =>
    let size :=
      if m == 0 then ['0', '.', '0']
      else
        let (digits, place) := shortest m e
        let (ds, point) := significant digits place
        positionalOrScaled ds point
    if negative then '-' :: size else size

def text (x : Binary64) : String := String.ofList x.chars

end Binary64

end TaskBoard.Number

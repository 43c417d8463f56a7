import TaskBoard.Number.Digits
import TaskBoard.Text.Printable
import TaskBoard.Time.Timestamp

namespace TaskBoard.Time

open Number

structure Span where
  days : Int
  seconds : Nat
  micros : Nat

def Span.ofMicros (n : Int) : Span :=
  let rest := (n % microsOfDay).toNat
  ⟨n / microsOfDay, rest / microsOfSecond, rest % microsOfSecond⟩

namespace Timestamp

def dateChars (t : Timestamp) : List Char :=
  let d := t.date
  padded 4 d.year ++ '-' :: padded 2 d.month ++ '-' :: padded 2 d.day

def clockChars (t : Timestamp) : List Char :=
  padded 2 t.hour ++ ':' :: padded 2 t.minute ++ ':' :: padded 2 t.second

def fractionChars (micros : Nat) : List Char := if micros == 0 then [] else '.' :: padded 6 micros

def offsetChars (offset : Int) : List Char :=
  let size := offset.natAbs
  let seconds := size / microsOfSecond
  let micros := size % microsOfSecond
  (if offset < 0 then '-' else '+') :: padded 2 (seconds / 3600) ++ ':' :: padded 2 (seconds / 60 % 60) ++
    (if seconds % 60 == 0 && micros == 0 then [] else ':' :: padded 2 (seconds % 60) ++ fractionChars micros)

def isoChars (separator : Char) (t : Timestamp) : List Char :=
  t.dateChars ++ separator :: t.clockChars ++ fractionChars t.micros ++ (t.offset.map offsetChars).getD []

def spaced (t : Timestamp) : String := String.ofList (t.isoChars ' ')

end Timestamp

inductive ReadError where
  | malformed (text : String)
  | year (number : Int)
  | month
  | day
  | hour
  | minute
  | second
  | offset (micros : Int)

namespace ReadError

def lengthText (micros : Int) : String :=
  let s := Span.ofMicros micros
  let parts := (if s.days == 0 then [] else ["days=" ++ integerText s.days]) ++
    (if s.seconds == 0 then [] else ["seconds=" ++ naturalText s.seconds]) ++
    (if s.micros == 0 then [] else ["microseconds=" ++ naturalText s.micros])
  "datetime.timedelta(" ++ (if parts.isEmpty then "0" else ", ".intercalate parts) ++ ")"

def message : ReadError → String
  | malformed text => "Invalid isoformat string: " ++ Text.quoted text
  | year number => "year " ++ integerText number ++ " is out of range"
  | month => "month must be in 1..12"
  | day => "day is out of range for month"
  | hour => "hour must be in 0..23"
  | minute => "minute must be in 0..59"
  | second => "second must be in 0..59"
  | offset micros =>
    "offset must be a timedelta strictly between -timedelta(hours=24) and timedelta(hours=24), not " ++
      lengthText micros ++ "."

end ReadError

namespace Iso

def takeDigits (n : Nat) (s : List Char) : Option (Nat × List Char) :=
  let ds := s.take n
  if ds.length == n && ds.all isDigit then some (ofDigits ds, s.drop n) else none

/--
Where the date ends. Any character may stand there, so the place follows from the form of the date: `YYYY-MM-DD`,
`YYYYMMDD`, or a week date with or without a day.
-/
def dateLength (s : List Char) : Nat :=
  if s.length == 7 then 7
  else if s[4]? == some '-' then
    if s[5]? == some 'W' then
      if s[8]? == some '-' then
        if (s[10]?.map isDigit).getD false then 8 else 10
      else 8
    else 10
  else if s[4]? == some 'W' then
    let stop := 7 + ((s.drop 7).takeWhile isDigit).length
    if stop < 9 then stop else if stop % 2 == 0 then 7 else 8
  else 8

def weekDate (year week day : Nat) : Option Date :=
  if week == 0 || week > weeksOfYear year || day == 0 || day > 7 then none
  else if year == 0 then some ⟨1, 0, 0⟩
  else some (Date.ofDay (firstWeekStart year + 7 * (week - 1 : Int) + (day - 1 : Int)).toNat)

def readDate (length : Nat) (s : List Char) : Option Date := do
  let (year, s1) ← takeDigits 4 s
  let dashed := s1.head? == some '-'
  let s2 := if dashed then s1.drop 1 else s1
  if s2.head? == some 'W' then
    let (week, s3) ← takeDigits 2 (s2.drop 1)
    let read := s.length - s3.length
    let day ←
      if read < length then do
        let s4 ← if dashed then (if s3.head? == some '-' then some (s3.drop 1) else none) else some s3
        let (day, _) ← takeDigits 1 s4
        pure day
      else pure 1
    weekDate year week day
  else
    let (month, s3) ← takeDigits 2 s2
    let s4 ← if dashed then (if s3.head? == some '-' then some (s3.drop 1) else none) else some s3
    let (day, _) ← takeDigits 2 s4
    pure ⟨year, month, day⟩

structure Clock where
  hour : Nat
  minute : Nat
  second : Nat
  micros : Nat

def Clock.set (c : Clock) : Nat → Nat → Clock
  | 0, n => { c with hour := n }
  | 1, n => { c with minute := n }
  | _, n => { c with second := n }

def readFraction (c : Clock) (s : List Char) (after : Option Char) : Option (Clock × Bool) := do
  let count := min s.length 6
  let (n, rest) ← takeDigits count s
  let left := rest.dropWhile isDigit
  some ({ c with micros := n * tenTo (6 - count) }, !left.isEmpty || after.isSome)

/--
Hours, minutes and seconds in pairs of digits, with colons between all of them or none. The first argument counts the
pairs read, `after` is the character behind the text, and the flag says that something is left.
-/
def readPairs (colons : Bool) (c : Clock) (after : Option Char) : Nat → Nat → List Char → Option (Clock × Bool)
  | _, 0, s => readFraction c s after
  | i, fuel + 1, s => do
    let (n, rest) ← takeDigits 2 s
    let c := c.set i n
    match rest with
    | [] => some (c, after.isSome)
    | [_] => some (c, true)
    | d :: rest' =>
      let colons := if i == 0 then d == ':' else colons
      if colons && d == ':' then readPairs colons c after (i + 1) fuel rest'
      else if d == '.' || d == ',' then readFraction c rest' after
      else if !colons then readPairs colons c after (i + 1) fuel rest
      else none

def readClock (s : List Char) (after : Option Char) : Option (Clock × Bool) := readPairs true ⟨0, 0, 0, 0⟩ after 0 3 s

def readTime (s : List Char) : Option (Clock × Option Int) := do
  let isZone := fun c => c == '+' || c == '-' || c == 'Z'
  let clock := s.takeWhile (!isZone ·)
  let zone := s.dropWhile (!isZone ·)
  let (c, left) ← readClock clock zone.head?
  match zone with
  | [] => if left then none else some (c, none)
  | 'Z' :: rest => if rest.isEmpty then some (c, some 0) else none
  | sign :: rest =>
    let (o, left) ← readClock rest none
    if left then none
    else
      let seconds : Int := o.hour * 3600 + o.minute * 60 + o.second
      let micros : Int := if seconds == 0 then 0 else seconds * microsOfSecond + o.micros
      some (c, some (if sign == '-' then -micros else micros))

def readParts (s : List Char) : Option (Date × Clock × Option Int) := do
  if s.length < 7 then none
  let length := dateLength s
  let date ← readDate length s
  match s.drop length with
  | [] => some (date, ⟨0, 0, 0, 0⟩, none)
  | _ :: time =>
    let (clock, offset) ← readTime time
    some (date, clock, offset)

end Iso

namespace Timestamp

def read (text : String) : Except ReadError Timestamp := do
  let some (d, c, offset) := Iso.readParts text.toList | throw (.malformed text)
  if ho : ∀ o ∈ offset, -(microsOfDay : Int) < o ∧ o < microsOfDay then
    if d.year < 1 || 9999 < d.year then throw (.year d.year)
    if d.month < 1 || 12 < d.month then throw .month
    if d.day < 1 || daysInMonth d.year d.month < d.day then throw .day
    if 23 < c.hour then throw .hour
    if 59 < c.minute then throw .minute
    if 59 < c.second then throw .second
    let wall := d.toDay * microsOfDay + ((c.hour * 60 + c.minute) * 60 + c.second) * microsOfSecond + c.micros
    if hw : wall < span then pure ⟨wall, offset, hw, ho⟩ else throw (.malformed text)
  else throw (.offset (offset.getD 0))

end Timestamp

end TaskBoard.Time

import TaskBoard.Number.Digits
import TaskBoard.Time.Timestamp

/-! Texts of points of time by a pattern, in which letters behind percent signs stand for parts of the date and time. -/

namespace TaskBoard.Time.Pattern

open Number

def dayNames : List String := ["Monday", "Tuesday", "Wednesday", "Thursday", "Friday", "Saturday", "Sunday"]

def monthNames : List String :=
  ["January", "February", "March", "April", "May", "June", "July", "August", "September", "October", "November",
    "December"]

def isoWeek (day : Nat) : Nat × Nat :=
  let year := (Date.ofDay day).year
  let weekIn := fun (y : Nat) => ((day : Int) - firstWeekStart y) / 7 + 1
  if (day : Int) < firstWeekStart year then (year - 1, (weekIn (year - 1)).toNat)
  else if year < 9999 && firstWeekStart (year + 1) ≤ day then (year + 1, 1)
  else (year, (weekIn year).toNat)

structure Style where
  padding : Option Char := none
  upper : Bool := false
  swap : Bool := false
  width : Nat := 0

inductive Part where
  | number (width : Nat) (padding : Char) (n : Nat)
  | name (s : String)
  | pattern (s : String)

structure Reading where
  date : Date
  day : Nat
  dayOfYear : Nat
  time : Timestamp

def Reading.ofTimestamp (t : Timestamp) : Reading :=
  let day := t.wall / microsOfDay
  let date := Date.ofDay day
  ⟨date, day, day - daysOfYears (date.year - 1), t⟩

def half (hour : Nat) : Nat := if hour % 12 == 0 then 12 else hour % 12

def part? (r : Reading) (letter : Char) : Option Part :=
  let weekday := weekday r.day
  let dayName := dayNames[weekday]?.getD ""
  let monthName := monthNames[r.date.month - 1]?.getD ""
  let sunday := (weekday + 1) % 7
  match letter with
  | 'a' => some (.name (String.ofList (dayName.toList.take 3)))
  | 'A' => some (.name dayName)
  | 'b' | 'h' => some (.name (String.ofList (monthName.toList.take 3)))
  | 'B' => some (.name monthName)
  | 'c' => some (.pattern "%a %b %e %H:%M:%S %Y")
  | 'C' => some (.number 1 '0' (r.date.year / 100))
  | 'd' => some (.number 2 '0' r.date.day)
  | 'D' | 'x' => some (.pattern "%m/%d/%y")
  | 'e' => some (.number 2 ' ' r.date.day)
  | 'F' => some (.pattern "%Y-%m-%d")
  | 'g' => some (.number 2 '0' ((isoWeek r.day).1 % 100))
  | 'G' => some (.number 1 '0' (isoWeek r.day).1)
  | 'H' => some (.number 2 '0' r.time.hour)
  | 'I' => some (.number 2 '0' (half r.time.hour))
  | 'j' => some (.number 3 '0' (r.dayOfYear + 1))
  | 'k' => some (.number 2 ' ' r.time.hour)
  | 'l' => some (.number 2 ' ' (half r.time.hour))
  | 'm' => some (.number 2 '0' r.date.month)
  | 'M' => some (.number 2 '0' r.time.minute)
  | 'n' => some (.name "\n")
  | 'p' => some (.name (if r.time.hour < 12 then "AM" else "PM"))
  | 'P' => some (.name (if r.time.hour < 12 then "am" else "pm"))
  | 'r' => some (.pattern "%I:%M:%S %p")
  | 'R' => some (.pattern "%H:%M")
  | 's' => some (.name (integerText ((r.time.instant - Timestamp.epoch.instant) / microsOfSecond)))
  | 'S' => some (.number 2 '0' r.time.second)
  | 't' => some (.name "\t")
  | 'T' | 'X' => some (.pattern "%H:%M:%S")
  | 'u' => some (.number 1 '0' (weekday + 1))
  | 'U' => some (.number 2 '0' ((r.dayOfYear + 7 - sunday) / 7))
  | 'V' => some (.number 2 '0' (isoWeek r.day).2)
  | 'w' => some (.number 1 '0' sunday)
  | 'W' => some (.number 2 '0' ((r.dayOfYear + 7 - weekday) / 7))
  | 'y' => some (.number 2 '0' (r.date.year % 100))
  | 'Y' => some (.number 1 '0' r.date.year)
  | 'z' => some (.name "+0000")
  | 'Z' => some (.name "UTC")
  | '%' => some (.name "%")
  | _ => none

def style (s : Style) : List Char → Style × List Char
  | c :: rest =>
    if c == '_' || c == '-' || c == '0' then style { s with padding := some c } rest
    else if c == '^' then style { s with upper := true } rest
    else if c == '#' then style { s with swap := true } rest
    else ({ s with width := ofDigits ((c :: rest).takeWhile isDigit) }, (c :: rest).dropWhile isDigit)
  | [] => (s, [])

def modifier? : List Char → Option Char × List Char
  | 'E' :: rest => (some 'E', rest)
  | 'O' :: rest => (some 'O', rest)
  | rest => (none, rest)

def takesModifier (modifier : Option Char) (letter : Char) : Bool :=
  match modifier with
  | none => true
  | some 'E' => !"aAbhBDdeFHIkljMmSUVgGWw%".toList.contains letter
  | some _ => !"aADFcCxXY%".toList.contains letter

def numberChars (s : Style) (width : Nat) (padding : Char) (n : Nat) : List Char :=
  match s.padding with
  | some '-' => (digits n).leftpad s.width ' '
  | some '_' => (digits n).leftpad (max width s.width) ' '
  | some _ => (digits n).leftpad (max width s.width) '0'
  | none => (digits n).leftpad (max width s.width) padding

def nameChars (s : Style) (letter : Char) (name : List Char) : List Char :=
  let cased := if s.upper then name.map Char.toUpper
    else if s.swap && letter == 'p' then name.map Char.toLower
    else if s.swap && "aAbhB".toList.contains letter then name.map Char.toUpper
    else name
  cased.leftpad s.width (if s.padding == some '0' then '0' else ' ')

/-- The text of a pattern's rest; a letter that stands for nothing is left. The first argument bounds the steps. -/
def expand (r : Reading) : Nat → List Char → List Char
  | _, [] => []
  | 0, _ => []
  | fuel + 1, c :: rest =>
    if c != '%' then c :: expand r fuel rest
    else
      let (s, behind) := style {} rest
      let (modifier, behind) := modifier? behind
      match behind with
      | [] => c :: rest
      | letter :: more =>
        match if takesModifier modifier letter then part? r letter else none with
        | some (.number width padding n) => numberChars s width padding n ++ expand r fuel more
        | some (.name name) => nameChars s letter name.toList ++ expand r fuel more
        | some (.pattern p) => nameChars s letter (expand r fuel p.toList) ++ expand r fuel more
        | none => nameChars s letter (c :: rest.take (rest.length - more.length)) ++ expand r fuel more

def format (pattern : String) (t : Timestamp) : String :=
  let cs := pattern.toList
  String.ofList (expand (.ofTimestamp t) (cs.length + 20) cs)

end TaskBoard.Time.Pattern

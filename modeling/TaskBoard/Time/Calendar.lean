/-! Dates of the Gregorian calendar and their day numbers, counted from 1 January of year 1. -/

namespace TaskBoard.Time

def isLeap (year : Nat) : Bool := year % 4 == 0 && (year % 100 != 0 || year % 400 == 0)

def daysOfYears (n : Nat) : Nat := 365 * n + n / 4 - n / 100 + n / 400

def monthLengths (leap : Bool) : List Nat := [31, if leap then 29 else 28, 31, 30, 31, 30, 31, 31, 30, 31, 30, 31]

def daysInMonth (year month : Nat) : Nat :=
  match month with
  | 0 => 0
  | m + 1 => ((monthLengths (isLeap year))[m]?).getD 0

def daysBeforeMonth (year month : Nat) : Nat := ((monthLengths (isLeap year)).take (month - 1)).foldl (· + ·) 0

def yearsBefore (day : Nat) : Nat :=
  let guess := day * 400 / 146097
  if day < daysOfYears guess then guess - 1
  else if daysOfYears (guess + 1) ≤ day then guess + 1 else guess

theorem daysOfYears_yearsBefore_le (day : Nat) : daysOfYears (yearsBefore day) ≤ day := by
  unfold yearsBefore
  simp only
  split
  · rename_i h
    unfold daysOfYears at *
    omega
  · split
    · assumption
    · omega

theorem lt_daysOfYears_yearsBefore (day : Nat) : day < daysOfYears (yearsBefore day + 1) := by
  unfold yearsBefore
  simp only
  split
  · rename_i h
    have : 0 < day * 400 / 146097 := by
      rcases Nat.eq_zero_or_pos (day * 400 / 146097) with h0 | h0
      · rw [h0] at h
        simp [daysOfYears] at h
      · exact h0
    rwa [Nat.sub_add_cancel this]
  · split
    · rename_i h h'
      unfold daysOfYears at *
      omega
    · omega

def monthAndDay (first : Nat) : List Nat → Nat → Nat × Nat
  | [], rest => (first, rest + 1)
  | length :: later, rest => if rest < length then (first, rest + 1) else monthAndDay (first + 1) later (rest - length)

structure Date where
  year : Nat
  month : Nat
  day : Nat
deriving DecidableEq, Repr

def Date.isValid (d : Date) : Bool :=
  1 ≤ d.year && d.year ≤ 9999 && 1 ≤ d.month && d.month ≤ 12 && 1 ≤ d.day && d.day ≤ daysInMonth d.year d.month

def Date.toDay (d : Date) : Nat := daysOfYears (d.year - 1) + daysBeforeMonth d.year d.month + (d.day - 1)

def Date.ofDay (day : Nat) : Date :=
  let years := yearsBefore day
  let found := monthAndDay 1 (monthLengths (isLeap (years + 1))) (day - daysOfYears years)
  ⟨years + 1, found.1, found.2⟩

def weekday (day : Nat) : Nat := day % 7

/-- The day on which the first week of a year starts: the week with the year's first Thursday. -/
def firstWeekStart (year : Nat) : Int :=
  let start := daysOfYears (year - 1)
  let fromMonday := weekday start
  if fromMonday ≤ 3 then (start : Int) - fromMonday else (start : Int) - fromMonday + 7

def weeksOfYear (year : Nat) : Nat :=
  let first := weekday (daysOfYears (year - 1))
  if first == 3 || (first == 2 && isLeap year) then 53 else 52

end TaskBoard.Time

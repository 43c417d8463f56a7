import TaskBoard.Time.Calendar

namespace TaskBoard.Time

def microsOfSecond : Nat := 1000000

def microsOfDay : Nat := 86400000000

def span : Nat := 3652059 * microsOfDay

/--
A wall clock reading, in microseconds since the start of year 1, and how far it is ahead of UTC. A reading without
an offset belongs to no zone.
-/
structure Timestamp where
  wall : Nat
  offset : Option Int
  wall_lt : wall < span
  offset_lt : ∀ o ∈ offset, -microsOfDay < o ∧ o < microsOfDay
deriving DecidableEq

namespace Timestamp

def ofWall? (wall : Int) (offset : Option Int) : Option Timestamp :=
  if h : 0 ≤ wall ∧ wall.toNat < span then
    if ho : ∀ o ∈ offset, -(microsOfDay : Int) < o ∧ o < microsOfDay then some ⟨wall.toNat, offset, h.2, ho⟩ else none
  else none

def epoch : Timestamp := ⟨719162 * microsOfDay, some 0, by decide, fun _ h => by cases h; decide⟩

instance : Inhabited Timestamp := ⟨epoch⟩

def instant (t : Timestamp) : Int := t.wall - t.offset.getD 0

def isAware (t : Timestamp) : Bool := t.offset.isSome

def date (t : Timestamp) : Date := Date.ofDay (t.wall / microsOfDay)

def timeOfDay (t : Timestamp) : Nat := t.wall % microsOfDay

def micros (t : Timestamp) : Nat := t.wall % microsOfSecond

def seconds (t : Timestamp) : Nat := t.timeOfDay / microsOfSecond

def hour (t : Timestamp) : Nat := t.seconds / 3600

def minute (t : Timestamp) : Nat := t.seconds / 60 % 60

def second (t : Timestamp) : Nat := t.seconds % 60

def shift? (t : Timestamp) (by' : Int) : Option Timestamp := ofWall? (t.wall + by') t.offset

def toUtc? (t : Timestamp) : Option Timestamp := ofWall? t.instant (some 0)

def sameTime (s t : Timestamp) : Bool := s.isAware == t.isAware && s.instant == t.instant

def earlier? (s t : Timestamp) : Option Bool :=
  if s.isAware == t.isAware then some (s.instant < t.instant) else none

end Timestamp

end TaskBoard.Time

/-!
# Instants

A point in time is a number of seconds of the civil calendar in UTC, counted
from the start of 1970, and a fraction in nanoseconds. A leap second has no
number of its own: it is the second before it with a fraction of one second or
more.
-/

namespace RingOperator

/-- A point in time. -/
structure Instant where
  /-- Seconds since the start of 1970. -/
  second : Int
  /-- Nanoseconds within the second; from one second on, those of a leap second. -/
  nano : Nat
  deriving DecidableEq, Inhabited

namespace Instant

/-- The nanoseconds of a second. -/
def nanosPerSecond : Nat := 1000000000

/-- The seconds of a day. -/
def secondsPerDay : Int := 86400

/-- The second of the day. -/
def timeOfDay (t : Instant) : Int := t.second % secondsPerDay

/-- Whether the instant lies in a leap second. -/
def isLeap (t : Instant) : Bool := nanosPerSecond ≤ t.nano

/-- The nanoseconds from the second instant to the first. A leap second lies between two times
of day exactly if it is the earlier of the two. -/
def sub (a b : Instant) : Int :=
  let leap : Int :=
    if b.timeOfDay < a.timeOfDay then (if b.isLeap then 1 else 0)
    else if a.timeOfDay < b.timeOfDay then (if a.isLeap then -1 else 0)
    else 0
  (a.second - b.second + leap) * nanosPerSecond + (a.nano - b.nano : Int)

/-- The instant a number of seconds later. -/
def addSeconds (t : Instant) (seconds : Int) : Instant := { t with second := t.second + seconds }

end Instant

end RingOperator

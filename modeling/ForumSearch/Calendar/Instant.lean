import ForumSearch.Calendar.Date

/-!
Instants of UTC, as whole seconds since 1970-01-01T00:00:00Z and a fraction in nanoseconds.
Seconds count down before 1970, so the day of an instant is a quotient rounded down. A leap second
has no number of its own: it prolongs the second before it, whose fraction then exceeds a second.
-/

namespace ForumSearch

structure Instant where
  seconds : Int
  nanos : Nat
  deriving DecidableEq, Repr, Inhabited

namespace Instant

def secondsPerDay : Int := 86400

/-- The day number of the UTC date. -/
def day (t : Instant) : Int :=
  t.seconds / secondsPerDay

def midnight (day : Int) : Instant :=
  ⟨day * secondsPerDay, 0⟩

/-- The last microsecond of a day. -/
def endOfDay (day : Int) : Instant :=
  ⟨day * secondsPerDay + 86399, 999999000⟩

/-- The instant rounded down to a whole second. -/
def floor (t : Instant) : Instant :=
  ⟨t.seconds, 0⟩

/-- The nanoseconds since 1970, leap seconds left out. -/
def total (t : Instant) : Int :=
  t.seconds * 1000000000 + t.nanos

def clock (t : Instant) : Int :=
  t.seconds % secondsPerDay

def inLeapSecond (t : Instant) : Bool :=
  1000000000 ≤ t.nanos

/-- The second that a leap second adds to the time between two instants: the clock of one of them
is inside it, and the clock of the other has passed it. -/
def leapBetween (now earlier : Instant) : Int :=
  if earlier.clock < now.clock && earlier.inLeapSecond then 1
  else if now.clock < earlier.clock && now.inLeapSecond then -1
  else 0

/-- The whole seconds from one instant to another, rounded toward zero. -/
def secondsSince (now earlier : Instant) : Int :=
  (now.total - earlier.total + leapBetween now earlier * 1000000000).tdiv 1000000000

/-- The day that lies some days before an instant. Going back from inside a leap second starts at
its end, which may be midnight. -/
def dayBefore (t : Instant) (days : Int) : Int :=
  if 0 < days ∧ t.inLeapSecond then (t.seconds + 1) / secondsPerDay - days else t.day - days

end Instant

end ForumSearch

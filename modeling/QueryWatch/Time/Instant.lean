import QueryWatch.Time.Timestamp

/-!
Time as a program measures it: nanoseconds from a common start, which never go back, beside the
calendar.
-/

set_option autoImplicit false

namespace QueryWatch

/-- A point in time, in nanoseconds from a common start. -/
abbrev Instant := Nat

/-- How many nanoseconds a number of milliseconds has. -/
def millis (n : Nat) : Nat := n * 1000000

/-- A point in time by both measures. -/
structure Moment where
  instant : Instant
  time : Timestamp
  deriving DecidableEq, Repr

/-- The moment a number of nanoseconds later. -/
def Moment.after (m : Moment) (nanos : Nat) : Moment := ⟨m.instant + nanos, m.time.after nanos⟩

end QueryWatch

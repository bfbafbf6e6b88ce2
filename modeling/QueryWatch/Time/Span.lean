import QueryWatch.Time.Instant

/-!
Lengths of time. Their seconds are counted in 64 bits, so that there is a longest one; what would be
longer is as long as that.
-/

set_option autoImplicit false

namespace QueryWatch

/-- A length of time, in nanoseconds. -/
structure TimeSpan where
  nanos : Nat
  nanos_lt : nanos < UInt64.size * 1000000000
  deriving DecidableEq, Repr

namespace TimeSpan

instance : LE TimeSpan := ⟨fun s t ↦ s.nanos ≤ t.nanos⟩

instance : DecidableLE TimeSpan := fun s t ↦ inferInstanceAs (Decidable (s.nanos ≤ t.nanos))

instance : Max TimeSpan := maxOfLe

instance : Min TimeSpan := minOfLe

def longest : TimeSpan := ⟨UInt64.size * 1000000000 - 1, by decide⟩

/-- So many milliseconds. -/
def ofMillis (n : Nat) : TimeSpan :=
  if h : millis n < UInt64.size * 1000000000 then ⟨millis n, h⟩ else longest

/-- How many whole milliseconds there are. -/
def inMillis (t : TimeSpan) : Nat := t.nanos / 1000000

/-- Twice as long, unless that is longer than the longest one. -/
def twice? (t : TimeSpan) : Option TimeSpan :=
  if h : 2 * t.nanos < UInt64.size * 1000000000 then some ⟨2 * t.nanos, h⟩ else none

/-- Twice as long, and no longer than the longest one. -/
def twice (t : TimeSpan) : TimeSpan := t.twice?.getD longest

end TimeSpan
end QueryWatch

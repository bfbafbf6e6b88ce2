import QueryWatch.Time.Span

/-!
How long to wait before the next attempt to connect: twice as long as before the last one, up to a
limit, and no less than a millisecond.
-/

set_option autoImplicit false

namespace QueryWatch

/-- The delays before attempts, and how many were taken since the start; their number stops at the
largest one of 32 bits. -/
structure Backoff where
  initial : TimeSpan
  limit : TimeSpan
  next : TimeSpan
  attempts : Nat
  deriving DecidableEq, Repr

namespace Backoff

/-- The first delay and the limit are set in milliseconds; no delay is shorter than the first. -/
def ofMillis (initial limit : Nat) : Backoff :=
  let initial := max (.ofMillis initial) (.ofMillis 1)
  ⟨initial, max (.ofMillis limit) initial, initial, 0⟩

/-- The milliseconds before the next attempt. -/
def advance (b : Backoff) : Nat × Backoff :=
  (b.next.inMillis,
    { b with
      next := min b.next.twice b.limit
      attempts := min (b.attempts + 1) (UInt32.size - 1) })

def reset (b : Backoff) : Backoff := { b with next := b.initial, attempts := 0 }

end Backoff
end QueryWatch

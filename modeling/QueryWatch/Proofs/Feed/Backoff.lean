import Mathlib.Algebra.Group.Nat.Defs
import Mathlib.Data.List.DropRight
import Mathlib.Data.List.Induction
import QueryWatch.Feed.Backoff

/-!
How the delays before attempts grow. A backoff from which `n` delays were taken since it was last
reset has its first delay doubled `n` times, up to its limit (`Doubled`). A delay that is taken adds
one to that number (`Doubled.advance`), a reset takes it back to zero (`Doubled.reset`), and so it
is at the end of every run (`doubled_run`). The settings are milliseconds of 64 bits, and a time
span counts as many seconds, so that no delay is too long to be doubled
(`TimeSpan.nanos_ofMillis_of_lt`): it is the limit alone that ends the growth (`delays_run`).
-/

set_option autoImplicit false

namespace QueryWatch

/-! ### Time spans -/

namespace TimeSpan

variable {s t : TimeSpan} {n : Nat}

theorem eq_of_nanos_eq (h : s.nanos = t.nanos) : s = t := by
  cases s
  cases t
  cases h
  rfl

theorem nanos_max (s t : TimeSpan) : (max s t).nanos = max s.nanos t.nanos :=
  apply_ite TimeSpan.nanos ..

theorem nanos_min (s t : TimeSpan) : (min s t).nanos = min s.nanos t.nanos :=
  apply_ite TimeSpan.nanos ..

/-- Milliseconds are cut at the longest time span. -/
theorem nanos_ofMillis (n : Nat) : (ofMillis n).nanos = min (millis n) longest.nanos := by
  unfold ofMillis longest
  split_ifs with h
  · exact (Nat.min_eq_left (Nat.le_pred_of_lt h)).symm
  · exact (Nat.min_eq_right (Nat.le_trans (Nat.pred_le _) (Nat.not_lt.mp h))).symm

/-- Milliseconds of twice 64 bits are a time span without being cut. -/
theorem nanos_ofMillis_of_lt (h : n < 2 * UInt64.size) : (ofMillis n).nanos = millis n := by
  rw [nanos_ofMillis, Nat.min_eq_left]
  have hlongest : longest.nanos = UInt64.size * 1000000000 - 1 := rfl
  rw [hlongest, millis]
  omega

theorem max_ofMillis (m n : Nat) : max (ofMillis m) (ofMillis n) = ofMillis (max m n) := by
  refine eq_of_nanos_eq ?_
  simp only [nanos_max, nanos_ofMillis, millis]
  omega

theorem min_ofMillis (m n : Nat) : min (ofMillis m) (ofMillis n) = ofMillis (min m n) := by
  refine eq_of_nanos_eq ?_
  simp only [nanos_min, nanos_ofMillis, millis]
  omega

theorem inMillis_ofMillis (h : n < UInt64.size) : (ofMillis n).inMillis = n := by
  rw [inMillis, nanos_ofMillis_of_lt (by omega), millis]
  exact Nat.mul_div_cancel n (by decide)

/-- Milliseconds of 64 bits can be doubled. -/
theorem twice?_ofMillis (h : n < UInt64.size) : (ofMillis n).twice? = some (ofMillis (2 * n)) := by
  have hnanos := nanos_ofMillis_of_lt (n := n) (by omega)
  have hfits : 2 * (ofMillis n).nanos < UInt64.size * 1000000000 := by
    rw [hnanos, millis]
    omega
  rw [twice?, dif_pos hfits]
  refine congrArg some (eq_of_nanos_eq ?_)
  change 2 * (ofMillis n).nanos = (ofMillis (2 * n)).nanos
  rw [hnanos, nanos_ofMillis_of_lt (by omega), millis, millis, Nat.mul_assoc]

end TimeSpan

namespace Backoff

/-! ### Runs -/

/-- What can be done with a backoff. -/
inductive Operation
  | advance
  | reset
  deriving DecidableEq, Repr

def perform (b : Backoff) : Operation → Backoff
  | .advance => b.advance.2
  | .reset => b.reset

def run (b : Backoff) (operations : List Operation) : Backoff := operations.foldl perform b

/-- How many delays were taken since the last reset. -/
def sinceReset (operations : List Operation) : Nat :=
  (operations.rtakeWhile (· = .advance)).length

variable {b : Backoff} {first last n : Nat}

theorem sinceReset_concat_advance (operations : List Operation) :
    sinceReset (operations ++ [.advance]) = sinceReset operations + 1 := by
  rw [sinceReset, List.rtakeWhile_concat_pos _ _ _ (by decide), List.length_append, sinceReset]
  rfl

theorem sinceReset_concat_reset (operations : List Operation) :
    sinceReset (operations ++ [.reset]) = 0 := by
  rw [sinceReset, List.rtakeWhile_concat_neg _ _ _ (by decide), List.length_nil]

/-! ### Doubling -/

/-- The first delay is doubled `n` times, up to the last one. -/
def delayAfter (first last n : Nat) : Nat := min (first * 2 ^ n) last

theorem delayAfter_lt {bound : Nat} (h : last < bound) (first n : Nat) :
    delayAfter first last n < bound :=
  Nat.lt_of_le_of_lt (Nat.min_le_right ..) h

theorem delayAfter_zero (h : first ≤ last) : delayAfter first last 0 = first := by
  rw [delayAfter, Nat.pow_zero, Nat.mul_one, Nat.min_eq_left h]

theorem delayAfter_succ (first last n : Nat) :
    delayAfter first last (n + 1) = min (2 * delayAfter first last n) last := by
  unfold delayAfter
  rw [Nat.pow_succ, ← Nat.mul_assoc]
  omega

theorem delayAfter_le_add (first last n more : Nat) :
    delayAfter first last n ≤ delayAfter first last (n + more) := by
  have hgrows : first * 2 ^ n ≤ first * 2 ^ (n + more) :=
    Nat.mul_le_mul_left first (Nat.pow_le_pow_right (by decide) (Nat.le_add_right n more))
  unfold delayAfter
  omega

/-- What a backoff is from which `n` delays were taken since the last reset. -/
structure Doubled (b : Backoff) (first last n : Nat) : Prop where
  initial_eq : b.initial = .ofMillis first
  limit_eq : b.limit = .ofMillis last
  next_eq : b.next = .ofMillis (delayAfter first last n)
  attempts_eq : b.attempts = min n (UInt32.size - 1)

/-- The first delay is at least a millisecond, and the last one no less than the first. -/
theorem doubled_ofMillis (initial limit : Nat) :
    (ofMillis initial limit).Doubled (max initial 1) (max limit (max initial 1)) 0 where
  initial_eq := TimeSpan.max_ofMillis initial 1
  limit_eq := by
    change max (TimeSpan.ofMillis limit) (max (.ofMillis initial) (.ofMillis 1)) = _
    rw [TimeSpan.max_ofMillis, TimeSpan.max_ofMillis]
  next_eq := by
    rw [delayAfter_zero (Nat.le_max_right ..)]
    exact TimeSpan.max_ofMillis initial 1
  attempts_eq := rfl

/-- The next delay is given in whole milliseconds, and nothing of it is lost. -/
theorem Doubled.fst_advance (h : b.Doubled first last n) (hlast : last < UInt64.size) :
    b.advance.1 = delayAfter first last n := by
  change b.next.inMillis = _
  rw [h.next_eq]
  exact TimeSpan.inMillis_ofMillis (delayAfter_lt hlast first n)

theorem Doubled.advance (h : b.Doubled first last n) (hlast : last < UInt64.size) :
    b.advance.2.Doubled first last (n + 1) where
  initial_eq := h.initial_eq
  limit_eq := h.limit_eq
  next_eq := by
    change min b.next.twice b.limit = _
    rw [h.next_eq, h.limit_eq, TimeSpan.twice,
      TimeSpan.twice?_ofMillis (delayAfter_lt hlast first n), Option.getD_some,
      TimeSpan.min_ofMillis, delayAfter_succ]
  attempts_eq := by
    change min (b.attempts + 1) (UInt32.size - 1) = _
    rw [h.attempts_eq]
    omega

theorem Doubled.reset (h : b.Doubled first last n) (hfirst : first ≤ last) :
    b.reset.Doubled first last 0 where
  initial_eq := h.initial_eq
  limit_eq := h.limit_eq
  next_eq := by
    change b.initial = _
    rw [h.initial_eq, delayAfter_zero hfirst]
  attempts_eq := rfl

/-- Delays that are taken without a reset go on with the doubling. -/
theorem Doubled.run_advance (h : b.Doubled first last n) (hlast : last < UInt64.size) (more : Nat) :
    (b.run (List.replicate more .advance)).Doubled first last (n + more) := by
  induction more with
  | zero => exact h
  | succ more ih =>
    rw [List.replicate_succ', run, List.foldl_concat]
    exact ih.advance hlast

theorem doubled_run {initial limit : Nat} (hinitial : initial < UInt64.size)
    (hlimit : limit < UInt64.size) (operations : List Operation) :
    ((ofMillis initial limit).run operations).Doubled (max initial 1)
      (max limit (max initial 1)) (sinceReset operations) := by
  have hlast : max limit (max initial 1) < UInt64.size :=
    Nat.max_lt.mpr ⟨hlimit, Nat.max_lt.mpr ⟨hinitial, by decide⟩⟩
  induction operations using List.reverseRecOn with
  | nil => exact doubled_ofMillis initial limit
  | append_singleton operations operation ih =>
    rw [run, List.foldl_concat]
    cases operation with
    | advance =>
      rw [sinceReset_concat_advance]
      exact ih.advance hlast
    | reset =>
      rw [sinceReset_concat_reset]
      exact ih.reset (Nat.le_max_right ..)

/-- However often delays were taken and whenever it was reset, a backoff gives its first delay
doubled as many times as delays were taken since the last reset, up to its limit. The first delay is
the one that is set, but at least a millisecond, and the limit is the one that is set, but no less
than the first delay. No delay is too long to be doubled. So each of them is at least a millisecond
and at most the limit, and until the next reset none is shorter than one before it. The delays
since the last reset are counted, as far as 32 bits go. -/
theorem delays_run (initial limit : UInt64) (operations : List Operation) :
    let first := max initial.toNat 1
    let last := max limit.toNat first
    let b := (ofMillis initial.toNat limit.toNat).run operations
    let n := sinceReset operations
    let delay := min (first * 2 ^ n) last
    b.advance.1 = delay ∧
      b.next.nanos = millis delay ∧
      (∃ t, b.next.twice? = some t ∧ t.nanos = 2 * millis delay) ∧
      1 ≤ b.advance.1 ∧
      b.advance.1 ≤ last ∧
      (∀ more, b.advance.1 ≤ (b.run (List.replicate more .advance)).advance.1) ∧
      b.attempts = min n (2 ^ 32 - 1) := by
  intro first last b n delay
  have hlast : last < UInt64.size :=
    Nat.max_lt.mpr ⟨limit.toNat_lt, Nat.max_lt.mpr ⟨initial.toNat_lt, by decide⟩⟩
  have h : b.Doubled first last n := doubled_run initial.toNat_lt limit.toNat_lt operations
  have hdelay : delayAfter first last n < UInt64.size := delayAfter_lt hlast first n
  have hfirst : first * 1 ≤ first * 2 ^ n := Nat.mul_le_mul_left first Nat.one_le_two_pow
  refine ⟨h.fst_advance hlast, ?_, ⟨.ofMillis (2 * delay), ?_, ?_⟩, ?_, ?_, fun more ↦ ?_,
    h.attempts_eq⟩
  · rw [h.next_eq]
    exact TimeSpan.nanos_ofMillis_of_lt (by omega)
  · rw [h.next_eq]
    exact TimeSpan.twice?_ofMillis hdelay
  · rw [TimeSpan.nanos_ofMillis_of_lt (by omega)]
    exact Nat.mul_assoc ..
  · rw [h.fst_advance hlast]
    change 1 ≤ min (first * 2 ^ n) last
    omega
  · rw [h.fst_advance hlast]
    exact Nat.min_le_right ..
  · rw [h.fst_advance hlast, (h.run_advance hlast more).fst_advance hlast]
    exact delayAfter_le_add first last n more

end Backoff
end QueryWatch

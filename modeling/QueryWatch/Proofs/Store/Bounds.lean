import QueryWatch.Proofs.Store.Balance
import QueryWatch.Proofs.Store.Numbering

/-!
How large the numbers of a store can be. An event adds at most one to each count, to the records and
to the results that wait (`Step.counts_atMost`, `Step.recordCount_le`, `Step.waitingCount_le`), and
what people do adds nothing, so after a run no number is above the length of the run (`within_run`).
Numbers of 64 bits are therefore enough for every run that can be carried out.
-/

set_option autoImplicit false

namespace QueryWatch

/-- No count is above a bound. -/
structure StoreCounts.AtMost (c : StoreCounts) (n : Nat) : Prop where
  queriesIssued : c.queriesIssued ≤ n
  duplicateIssues : c.duplicateIssues ≤ n
  resultsApplied : c.resultsApplied ≤ n
  orphanResults : c.orphanResults ≤ n
  orphansReconciled : c.orphansReconciled ≤ n
  orphansEvicted : c.orphansEvicted ≤ n
  orphansDropped : c.orphansDropped ≤ n
  sessionReuses : c.sessionReuses ≤ n

namespace Store

variable {s t : Store} {e : Event} {n : Nat}

/-- No number that is kept of a store is above a bound. -/
structure Within (s : Store) (n : Nat) : Prop where
  lastNumber_le : s.lastNumber ≤ n
  recordCount_le : s.recordCount ≤ n
  waitingCount_le : s.waitingCount ≤ n
  counts_le : s.counts.AtMost n

/-! ### Every step -/

/-- Whichever session a query goes to, at most one more is counted as reused. -/
theorem Destination.counts_eq {connection : ConnectionId} {place : Nat} {x : Session}
    (h : s.Destination connection place x t) : ∃ reuses, reuses ≤ s.counts.sessionReuses + 1 ∧
      t.counts = { s.counts with sessionReuses := reuses } := by
  rcases h.cases with ⟨rfl, -⟩ | ⟨-, rfl, -⟩
  · exact ⟨_, Nat.le_succ _, rfl⟩
  · refine ⟨_, Nat.add_le_add_left ?_ _, rfl⟩
    split <;> omega

theorem Step.counts_atMost (h : s.Step e t) (hcounts : s.counts.AtMost n) :
    t.counts.AtMost (n + 1) := by
  obtain ⟨h₁, h₂, h₃, h₄, h₅, h₆, h₇, h₈⟩ := hcounts
  cases h with
  | staged hnewest hstage =>
    show s.counts.AtMost (n + 1)
    constructor <;> omega
  | @opened connection stage hvacant hstart =>
    have hreuses : (s.advance.openNext connection stage).counts.sessionReuses ≤
        s.counts.sessionReuses + 1 := by
      refine Nat.add_le_add_left ?_ _
      split <;> omega
    refine ⟨?_, ?_, ?_, ?_, ?_, ?_, ?_, Nat.le_trans hreuses (Nat.succ_le_succ h₈)⟩ <;>
      exact Nat.le_succ_of_le ‹_›
  | repeated hduplicate => constructor <;> dsimp only [Store.advance] <;> omega
  | @recorded query place x u hnew hdestination hconnection hkey =>
    obtain ⟨reuses, hreuses, hsame⟩ := hdestination.counts_eq
    have hadvance : s.advance.counts = s.counts := rfl
    rw [hadvance] at hreuses hsame
    constructor <;> simp only [withQuery, hsame] <;> first | omega | (split <;> omega)
  | @resolved result key htarget =>
    have hsame : ((s.advance.resolve key result).touch key.session).counts = s.counts :=
      touch_counts ..
    constructor <;> simp only [hsame] <;> omega
  | @buffered result htarget =>
    have hadvance : s.advance.counts = s.counts := rfl
    rw [counts_buffer, hadvance]
    constructor <;> dsimp only <;> first | omega | (split <;> omega)

theorem Step.recordCount_le (h : s.Step e t) : t.recordCount ≤ s.recordCount + 1 := by
  unfold recordCount
  cases h with
  | staged hnewest hstage => exact Nat.le_succ _
  | opened hvacant hstart => exact Nat.le_succ _
  | repeated hduplicate => exact Nat.le_succ _
  | recorded hnew hdestination hconnection hkey =>
    refine Nat.le_trans Std.ExtTreeMap.size_insert_le (Nat.succ_le_succ ?_)
    exact Nat.le_of_eq (congrArg Std.ExtTreeMap.size hdestination.records_eq)
  | resolved htarget =>
    simp only [records_touch]
    rw [size_records_resolve]
    exact Nat.le_succ _
  | buffered htarget =>
    rw [records_buffer]
    exact Nat.le_succ _

theorem Step.waitingCount_le (h : s.Step e t) : t.waitingCount ≤ s.waitingCount + 1 := by
  have hothers : ∀ connection command,
      (s.otherOrphans connection command).length ≤ s.orphans.length := fun _ _ ↦
    List.length_eraseP_le
  unfold waitingCount
  cases h with
  | staged hnewest hstage => exact Nat.le_succ _
  | opened hvacant hstart => exact Nat.le_succ _
  | repeated hduplicate => exact Nat.le_succ _
  | @recorded query place x u hnew hdestination hconnection hkey =>
    have horphans : u.orphans = s.orphans := hdestination.orphans_eq
    refine Nat.le_succ_of_le (Nat.le_trans List.length_eraseP_le ?_)
    exact Nat.le_of_eq (congrArg List.length horphans)
  | resolved htarget =>
    simp only [orphans_touch]
    exact Nat.le_succ _
  | @buffered result htarget =>
    have hle : (s.advance.otherOrphans result.connection result.command).length ≤
        s.orphans.length := hothers _ _
    have hadvance : s.advance.orphans = s.orphans := rfl
    rw [length_orphans_buffer, hadvance]
    dsimp only
    split
    · exact Nat.le_succ _
    · split <;> omega

namespace Within

theorem empty (settings : StoreSettings) (number : Nat) :
    Within { settings, lastNumber := number } number where
  lastNumber_le := Nat.le_refl _
  recordCount_le := Nat.zero_le _
  waitingCount_le := Nat.zero_le _
  counts_le := by constructor <;> exact Nat.zero_le _

theorem mono (h : s.Within n) {m : Nat} (hle : n ≤ m) : s.Within m where
  lastNumber_le := Nat.le_trans h.lastNumber_le hle
  recordCount_le := Nat.le_trans h.recordCount_le hle
  waitingCount_le := Nat.le_trans h.waitingCount_le hle
  counts_le := by
    obtain ⟨h₁, h₂, h₃, h₄, h₅, h₆, h₇, h₈⟩ := h.counts_le
    constructor <;> omega

theorem step (h : s.Within n) (hstep : s.Step e t) : t.Within (n + 1) where
  lastNumber_le := by
    rw [hstep.lastNumber_eq]
    exact Nat.succ_le_succ h.lastNumber_le
  recordCount_le := Nat.le_trans hstep.recordCount_le (Nat.succ_le_succ h.recordCount_le)
  waitingCount_le := Nat.le_trans hstep.waitingCount_le (Nat.succ_le_succ h.waitingCount_le)
  counts_le := hstep.counts_atMost h.counts_le

theorem perform (h : s.Within n) (hs : s.Coherent) (operation : Operation) :
    (s.perform operation).Within (n + 1) := by
  rcases operation.cases_isShowing with hshowing | rfl | ⟨e, rfl⟩
  · have hperformed := (perform_of_isShowing (s := s) hshowing).rest
    have hrecords : (s.perform operation).recordCount = s.recordCount := by
      rw [(hs.perform operation).recordCount_eq_sum, hs.recordCount_eq_sum, hperformed]
    refine mono (n := n) ⟨?_, hrecords ▸ h.recordCount_le, ?_, ?_⟩ (Nat.le_succ n)
    · rw [hperformed]
      exact h.lastNumber_le
    · rw [hperformed]
      exact h.waitingCount_le
    · rw [hperformed]
      exact h.counts_le
  · exact (empty s.settings s.lastNumber).mono (Nat.le_succ_of_le h.lastNumber_le)
  · exact h.step (hs.step_receive e)

theorem run (h : s.Within n) (hs : s.Coherent) (operations : List Operation) :
    (s.run operations).Within (n + operations.length) := by
  induction operations generalizing s n with
  | nil => exact h
  | cons operation operations ih =>
    have hrest := ih (h.perform hs operation) (hs.perform operation)
    rwa [Nat.add_right_comm] at hrest

end Within

end Store
end QueryWatch

import Mathlib.Algebra.Order.BigOperators.Group.List
import Mathlib.Algebra.Order.Group.Nat
import QueryWatch.Proofs.Dashboard.Addressed
import QueryWatch.Proofs.Dashboard.View
import QueryWatch.Proofs.Store.Bounds
import QueryWatch.Proofs.Time.Text

/-!
How large the numbers of a view can be, and which time it gives. No number in a view is above the
length of the run that led to the dashboard (`within_run`, `Within.view`), except the generations,
which are those of the sessions. The time of the last execution is one that an operation was given
(`showsProperTime_run`), so it is proper if those are.
-/

set_option autoImplicit false

namespace QueryWatch

/-- No number in a view is above a bound, and generations have 32 bits. -/
structure View.Within (v : View) (n : Nat) : Prop where
  sessions : ∀ x ∈ v.sessions, x.session.id.generation < UInt32.size ∧
    x.session.firstSeen ≤ n ∧ x.session.lastSeen ≤ n ∧ x.session.queryCount ≤ n ∧
    x.visibleQueries ≤ n
  queries : ∀ r ∈ v.queries, r.generation < UInt32.size ∧ r.received ≤ n
  recordCount_le : v.recordCount ≤ n
  counts_le : v.counts.store.AtMost n
  others_le : v.counts.orphansBuffered ≤ n ∧ v.counts.protocolErrors ≤ n ∧
    v.counts.unknownToggles ≤ n ∧ v.counts.filterCommits ≤ n

namespace Store

variable {s : Store} {x : Session} {r : RecordedQuery} {n : Nat}

/-- A session counts no more queries than there are records. -/
theorem Coherent.queryCount_le (hs : s.Coherent) (hx : x ∈ s.sessions) :
    x.queryCount ≤ s.recordCount := by
  rw [hs.recordCount_eq_sum]
  exact List.le_sum_of_mem (List.mem_map_of_mem hx)

/-- A filter shows no more records of a session than it counts. -/
theorem Coherent.length_filtered_le (hs : s.Coherent) (hx : x ∈ s.sessions) (f : Filter) :
    (s.filtered x.id f).length ≤ x.queryCount := by
  rw [← hs.length_recordsOf hx]
  exact List.length_filter_le _ _

end Store

namespace Dashboard

variable {d : Dashboard} {n : Nat}

/-- No number that is kept of a dashboard is above a bound. -/
structure Within (d : Dashboard) (n : Nat) : Prop where
  store : d.store.Within n
  protocolErrors_le : d.protocolErrors ≤ n
  unknownToggles_le : d.unknownToggles ≤ n
  commits_le : d.filter.commits ≤ n

/-! ### Runs -/

/-- What a view lists as queries are records of the history. -/
theorem exists_record?_of_mem_queries (hs : d.store.Coherent) {r : RecordedQuery}
    (hr : r ∈ d.view.queries) :
    ∃ x ∈ d.store.sessions, ∃ command, d.store.record? ⟨x.id, command⟩ = some r := by
  cases hactive : d.focus.active with
  | none =>
    rw [queries_view_of_inactive hactive] at hr
    cases hr
  | some connection =>
    rw [queries_view hactive] at hr
    obtain ⟨x, hx, hshown⟩ := List.mem_flatMap.mp hr
    exact ⟨x, (List.mem_filter.mp hx).1, (hs.mem_filtered_iff.mp hshown).1⟩

/-- No number in the view of a dashboard is above those of the dashboard. -/
theorem Within.view (h : d.Within n) (hs : d.store.Coherent) (hc : d.store.Chronological)
    (hgenerations : ∀ x ∈ d.store.sessions, x.id.generation < UInt32.size) :
    d.view.Within n where
  sessions row hrow := by
    rw [sessions_view] at hrow
    obtain ⟨x, hx, rfl⟩ := List.mem_map.mp hrow
    have hdated := hc.dated x hx
    have hlast := Nat.le_trans hdated.le_latest h.store.lastNumber_le
    have hcount := Nat.le_trans (hs.queryCount_le hx) h.store.recordCount_le
    exact ⟨hgenerations x hx, Nat.le_trans hdated.opened_le hlast, hlast, hcount,
      Nat.le_trans (hs.length_filtered_le hx _) hcount⟩
  queries r hr := by
    obtain ⟨x, hx, command, hrecord⟩ := exists_record?_of_mem_queries hs hr
    obtain ⟨y, hy, -, -, hlast⟩ := hc.received_between hs hrecord
    have hkey := hs.keyed _ r hrecord
    have hgeneration : r.generation = x.id.generation := congrArg (·.session.generation) hkey
    refine ⟨hgeneration ▸ hgenerations x hx, ?_⟩
    exact Nat.le_trans hlast (Nat.le_trans (hc.dated y hy).le_latest h.store.lastNumber_le)
  recordCount_le := h.store.recordCount_le
  counts_le := h.store.counts_le
  others_le := ⟨h.store.waitingCount_le, h.protocolErrors_le, h.unknownToggles_le, h.commits_le⟩

/-! ### The time of the last execution -/

/-- The time at which an operation has something executed is one that a clock can show. -/
def Operation.Timely : Operation → Prop
  | .execute _ now => now.Proper
  | .executeRecorded _ _ now => now.Proper
  | _ => True

theorem executedAt_ofResult (request : ExecutionRequest) (now : Timestamp)
    (result : Except Failure String) :
    (Execution.ofResult request now result).executedAt = now := by
  cases result <;> rfl

/-- The last execution was at a time that a clock can show. -/
def ShowsProperTime (d : Dashboard) : Prop :=
  ∀ e ∈ d.lastExecution, e.executedAt.Proper

theorem lastExecution_receive (d : Dashboard) (decoded : Except Refusal Event) :
    (d.receive decoded).2.lastExecution = d.lastExecution := by
  cases decoded with
  | error refusal => rfl
  | ok e =>
    show (d.apply e).2.lastExecution = _
    unfold apply
    dsimp only
    split
    · rfl
    · split <;> rfl

theorem ShowsProperTime.execute (request : ExecutionRequest) {now : Timestamp}
    (hnow : now.Proper) : (d.execute request now).2.ShowsProperTime := by
  intro e he
  cases Option.some.inj he
  rw [executedAt_ofResult]
  exact hnow

theorem ShowsProperTime.perform (h : d.ShowsProperTime) {operation : Operation}
    (htimely : operation.Timely) : (d.perform operation).ShowsProperTime := by
  cases operation with
  | event e =>
    have hsame : (d.perform (.event e)).lastExecution = d.lastExecution :=
      d.lastExecution_receive (.ok e)
    rwa [ShowsProperTime, hsame]
  | text raw => rwa [ShowsProperTime, perform_text, lastExecution_receive]
  | value j => rwa [ShowsProperTime, perform_value, lastExecution_receive]
  | toggle connection command =>
    unfold Dashboard.perform toggle
    dsimp only
    split <;> exact h
  | execute request now => exact .execute request htimely
  | executeRecorded connection command now =>
    unfold Dashboard.perform
    dsimp only
    cases hrecord : d.store.newestRecord? connection command with
    | none =>
      rw [executeRecorded_of_newestRecord?_eq_none hrecord]
      exact h
    | some record =>
      cases hexecutable : record.query.executable with
      | false =>
        rw [executeRecorded_of_executable_eq_false hrecord hexecutable]
        exact h
      | true =>
        rw [executeRecorded_of_executable hrecord hexecutable]
        exact .execute record.query.request htimely
  | connected _ | filterChanged _ _ | tick _ | commitFilter | clear | select _ | toggleAll
  | equip _ _ => exact h

end Dashboard
end QueryWatch

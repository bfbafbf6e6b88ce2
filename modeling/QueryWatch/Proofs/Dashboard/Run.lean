import QueryWatch.Dashboard.Basic
import QueryWatch.Proofs.Store.Chronology

/-!
Runs of a dashboard: messages mixed with everything else that can be done to one. What happens to a
dashboard does to its store at most what can happen to a store (`exists_run_store_perform`), so the
store of every dashboard that a run reaches is one that a run of a store reaches
(`exists_run_store`), and has all that is known of those.
-/

set_option autoImplicit false

namespace QueryWatch.Dashboard

/-- What can happen to a dashboard. Asking for the feed to be on or off, and looking at the
dashboard, changes nothing in it. What executes queries and what steers the feed may be replaced, so
that nothing is assumed of how they answer from one time to the next. -/
inductive Operation
  | event (e : Event)
  | text (raw : String)
  | value (j : Json)
  | connected (connected : Bool)
  | filterChanged (text : String) (now : Instant)
  | tick (now : Instant)
  | commitFilter
  | clear
  | select (connection : ConnectionId)
  | toggleAll
  | toggle (connection : ConnectionId) (command : CommandId)
  | execute (request : ExecutionRequest) (now : Timestamp)
  | executeRecorded (connection : ConnectionId) (command : CommandId) (now : Timestamp)
  | equip (executor : Executor) (steering : FeedSteering)

/-- The dashboard after an operation. -/
def perform (d : Dashboard) : Operation → Dashboard
  | .event e => (d.apply e).2
  | .text raw => (d.receiveText raw).2
  | .value j => (d.receiveValue j).2
  | .connected connected => d.setConnected connected
  | .filterChanged text now => d.filterChanged text now
  | .tick now => (d.tick now).2
  | .commitFilter => d.commitFilter.2
  | .clear => d.clear
  | .select connection => d.select connection
  | .toggleAll => d.toggleAll.2
  | .toggle connection command => (d.toggle connection command).2
  | .execute request now => (d.execute request now).2
  | .executeRecorded connection command now =>
    match d.executeRecorded connection command now with
    | .ok (_, t) => t
    | .error _ => d
  | .equip executor steering => { d with executor, steering }

def run (d : Dashboard) (operations : List Operation) : Dashboard := operations.foldl perform d

theorem perform_text (d : Dashboard) (raw : String) :
    d.perform (.text raw) = (d.receive (Event.decodeText raw)).2 := rfl

theorem perform_value (d : Dashboard) (j : Json) :
    d.perform (.value j) = (d.receive (Event.decode j)).2 := rfl

/-! ### What happens to the store -/

theorem store_apply (d : Dashboard) (e : Event) : (d.apply e).2.store = d.store.receive e := by
  unfold apply Store.receive
  dsimp only
  split
  · rfl
  · split <;> rfl

theorem store_receive (d : Dashboard) (decoded : Except Refusal Event) :
    (d.receive decoded).2.store =
      match decoded with
      | .ok e => d.store.receive e
      | .error _ => d.store := by
  cases decoded with
  | error refusal => rfl
  | ok e => exact d.store_apply e

theorem store_toggle (d : Dashboard) (connection : ConnectionId) (command : CommandId) :
    (d.toggle connection command).2.store = d.store.perform (.toggle connection command) := by
  unfold toggle
  cases h : d.store.toggle connection command with
  | error failure => simp only [Store.perform, h]
  | ok result => simp only [Store.perform, h]

/-- An operation brings an event: it is one, or a message that is decoded to it. -/
def Operation.Brings (operation : Operation) (e : Event) : Prop :=
  match operation with
  | event own => own = e
  | text raw => Event.decodeText raw = .ok e
  | value j => Event.decode j = .ok e
  | _ => False

/-- A message is one event for the store, or nothing. -/
theorem exists_run_store_receive (d : Dashboard) (decoded : Except Refusal Event) :
    ∃ steps : List Store.Operation, steps.length ≤ 1 ∧ (∀ e, .event e ∈ steps → decoded = .ok e) ∧
      (d.receive decoded).2.store = d.store.run steps := by
  rw [store_receive]
  cases decoded with
  | error refusal => exact ⟨[], Nat.zero_le 1, nofun, rfl⟩
  | ok e =>
    refine ⟨[.event e], Nat.le_refl 1, fun event hevent ↦ ?_, rfl⟩
    cases List.mem_singleton.mp hevent
    rfl

/-! ### Executing recorded queries -/

section Execution

variable {d : Dashboard} {connection : ConnectionId} {command : CommandId} {record : RecordedQuery}
  {m : Type → Type} [Monad m]

/-- Nothing is asked for without a record. -/
theorem executeRecordedBy_of_newestRecord?_eq_none
    (hnone : d.store.newestRecord? connection command = none)
    (ask : ExecutionRequest → m (Except Failure String)) (now : Timestamp) :
    d.executeRecordedBy ask connection command now =
      pure (.error (.queryNotFound connection command)) := by
  simp only [executeRecordedBy, hnone]

/-- Nothing is asked for if the record is that of no query. -/
theorem executeRecordedBy_of_executable_eq_false
    (hrecord : d.store.newestRecord? connection command = some record)
    (hnot : record.query.executable = false) (ask : ExecutionRequest → m (Except Failure String))
    (now : Timestamp) : d.executeRecordedBy ask connection command now =
      pure (.error (.notExecutable connection command)) := by
  simp [executeRecordedBy, hrecord, hnot]

/-- What is asked for is the newest query of the command, once. -/
theorem executeRecordedBy_of_executable [LawfulMonad m]
    (hrecord : d.store.newestRecord? connection command = some record)
    (hexecutable : record.query.executable = true)
    (ask : ExecutionRequest → m (Except Failure String)) (now : Timestamp) :
    d.executeRecordedBy ask connection command now = do
      let execution := Execution.ofResult record.query.request now (← ask record.query.request)
      return .ok (execution, { d with lastExecution := some execution }) := by
  simp [executeRecordedBy, executeBy, hrecord, hexecutable]

/-- Executing a recorded query changes nothing but what was executed last. -/
theorem exists_perform_executeRecorded (d : Dashboard) (connection : ConnectionId)
    (command : CommandId) (now : Timestamp) :
    ∃ lastExecution,
      d.perform (.executeRecorded connection command now) = { d with lastExecution } := by
  unfold perform executeRecorded
  dsimp only
  cases hrecord : d.store.newestRecord? connection command with
  | none =>
    rw [executeRecordedBy_of_newestRecord?_eq_none hrecord]
    exact ⟨d.lastExecution, rfl⟩
  | some record =>
    cases hexecutable : record.query.executable with
    | false =>
      rw [executeRecordedBy_of_executable_eq_false hrecord hexecutable]
      exact ⟨d.lastExecution, rfl⟩
    | true =>
      rw [executeRecordedBy_of_executable hrecord hexecutable]
      exact ⟨_, rfl⟩

/-- Executing a query leaves the history as it is. -/
theorem store_executeRecorded (d : Dashboard) (connection : ConnectionId) (command : CommandId)
    (now : Timestamp) : (d.perform (.executeRecorded connection command now)).store = d.store := by
  obtain ⟨lastExecution, heq⟩ := d.exists_perform_executeRecorded connection command now
  rw [heq]

end Execution

/-! ### Whether the feed is connected -/

theorem connected_apply (d : Dashboard) (e : Event) : (d.apply e).2.connected = d.connected := by
  unfold apply
  dsimp only
  split
  · rfl
  · split <;> rfl

theorem connected_receive (d : Dashboard) (decoded : Except Refusal Event) :
    (d.receive decoded).2.connected = d.connected := by
  cases decoded with
  | error refusal => rfl
  | ok e => exact d.connected_apply e

/-- A dashboard takes the feed for connected until it is told otherwise. -/
theorem connected_perform (d : Dashboard) {operation : Operation}
    (h : ∀ connected, operation ≠ .connected connected) :
    (d.perform operation).connected = d.connected := by
  cases operation with
  | event e => exact d.connected_apply e
  | text raw => rw [perform_text, connected_receive]
  | value j => rw [perform_value, connected_receive]
  | connected connected => exact absurd rfl (h connected)
  | toggle connection command =>
    unfold perform toggle
    dsimp only
    split <;> rfl
  | executeRecorded connection command now =>
    obtain ⟨lastExecution, heq⟩ := d.exists_perform_executeRecorded connection command now
    rw [heq]
  | _ => rfl

/-! ### Runs of the store -/

/-- What happens to a dashboard does to its store what can happen to a store, with the events that
it brings. -/
theorem exists_run_store_perform (d : Dashboard) (operation : Operation) :
    ∃ steps : List Store.Operation,
      steps.length ≤ 1 ∧ (∀ e, .event e ∈ steps → operation.Brings e) ∧
      (d.perform operation).store = d.store.run steps := by
  cases operation with
  | event e =>
    refine ⟨[.event e], Nat.le_refl 1, fun event hevent ↦ ?_, d.store_apply e⟩
    cases List.mem_singleton.mp hevent
    rfl
  | text raw =>
    rw [perform_text]
    exact d.exists_run_store_receive (Event.decodeText raw)
  | value j =>
    rw [perform_value]
    exact d.exists_run_store_receive (Event.decode j)
  | connected connected => exact ⟨[], Nat.zero_le 1, nofun, rfl⟩
  | filterChanged text now => exact ⟨[], Nat.zero_le 1, nofun, rfl⟩
  | tick now => exact ⟨[], Nat.zero_le 1, nofun, rfl⟩
  | commitFilter => exact ⟨[], Nat.zero_le 1, nofun, rfl⟩
  | clear => exact ⟨[.reset], Nat.le_refl 1, by simp, rfl⟩
  | select connection => exact ⟨[], Nat.zero_le 1, nofun, rfl⟩
  | toggleAll => exact ⟨[.expandAll !d.expandAll], Nat.le_refl 1, by simp, rfl⟩
  | toggle connection command =>
    exact ⟨[.toggle connection command], Nat.le_refl 1, by simp, d.store_toggle connection command⟩
  | execute request now => exact ⟨[], Nat.zero_le 1, nofun, rfl⟩
  | executeRecorded connection command now =>
    exact ⟨[], Nat.zero_le 1, nofun, d.store_executeRecorded connection command now⟩
  | equip executor steering => exact ⟨[], Nat.zero_le 1, nofun, rfl⟩

/-- The store of a dashboard goes through a run of its own, which is no longer, with the events that
were brought. -/
theorem exists_run_store (d : Dashboard) (operations : List Operation) :
    ∃ steps : List Store.Operation, steps.length ≤ operations.length ∧
      (∀ e, .event e ∈ steps → ∃ operation ∈ operations, operation.Brings e) ∧
      (d.run operations).store = d.store.run steps := by
  induction operations generalizing d with
  | nil => exact ⟨[], Nat.le_refl 0, nofun, rfl⟩
  | cons operation operations ih =>
    obtain ⟨first, hone, hfirst, heq⟩ := d.exists_run_store_perform operation
    obtain ⟨rest, hlength, hrest, heq'⟩ := ih (d.perform operation)
    refine ⟨first ++ rest, ?_, fun e he ↦ ?_, ?_⟩
    · rw [List.length_append, List.length_cons]
      omega
    · rcases List.mem_append.mp he with he | he
      · exact ⟨operation, List.mem_cons_self, hfirst e he⟩
      · obtain ⟨other, hother, hbrings⟩ := hrest e he
        exact ⟨other, List.mem_cons_of_mem _ hother, hbrings⟩
    · rw [Store.run_append, ← heq, ← heq']
      rfl

/-- A run keeps a history coherent. -/
theorem coherent_run {d : Dashboard} (hs : d.store.Coherent) (operations : List Operation) :
    (d.run operations).store.Coherent := by
  obtain ⟨steps, -, -, heq⟩ := d.exists_run_store operations
  rw [heq]
  exact hs.run steps

/-- The history of a dashboard that a run reaches is coherent and in the order of its events. -/
theorem coherent_chronological_run (settings : DashboardSettings) (operations : List Operation) :
    ((ofSettings settings).run operations).store.Coherent ∧
      ((ofSettings settings).run operations).store.Chronological := by
  obtain ⟨steps, -, -, hsteps⟩ := (ofSettings settings).exists_run_store operations
  rw [hsteps]
  exact ⟨(Store.coherent_empty _).run steps, Store.chronological_run _ steps⟩

end QueryWatch.Dashboard

import QueryWatch.Proofs.Store.Step

/-!
Runs of a store: events mixed with what people do. Every store that a run reaches is coherent, and
every place that is looked up in the list of sessions is in it (`coherent_in_bounds_run`). A run
opens at most one session in each step, so generations are bounded by its length.

What is said of the events since the last reset is said of `heard`, which has each of them with the
store that it came to; `run_heard` is the induction for such statements.
-/

set_option autoImplicit false

namespace QueryWatch

/-- What is recorded of a query, apart from whether it is shown in full. -/
def RecordedQuery.apartFromExpanded (r : RecordedQuery) : RecordedQuery :=
  { r with expanded := false }

namespace Store

variable {s : Store} {connection : ConnectionId}

/-- What can happen to a store: an event, or something people do. -/
inductive Operation
  | event (e : Event)
  | toggle (connection : ConnectionId) (command : CommandId)
  | expandAll (expanded : Bool)
  | reset
  deriving DecidableEq, Repr

/-- The store after an operation. Showing a record that is not there in full or short does
nothing. -/
def perform (s : Store) : Operation → Store
  | .event e => s.receive e
  | .toggle connection command =>
    match s.toggle connection command with
    | .ok (_, t) => t
    | .error _ => s
  | .expandAll expanded => s.expandAll expanded
  | .reset => s.reset

def run (s : Store) (operations : List Operation) : Store := operations.foldl perform s

theorem run_append (s : Store) (first second : List Operation) :
    s.run (first ++ second) = (s.run first).run second :=
  List.foldl_append

/-- The events that are heard since the last reset, once an operation is performed on a store. -/
def Operation.noted (operation : Operation) (s : Store) (heard : List (Store × Event)) :
    List (Store × Event) :=
  match operation with
  | event e => heard ++ [(s, e)]
  | reset => []
  | toggle _ _ => heard
  | expandAll _ => heard

/-- The events that are heard since the last reset, when some were heard before a run. -/
def heardOnto (s : Store) (heard : List (Store × Event)) : List Operation → List (Store × Event)
  | [] => heard
  | operation :: rest => (s.perform operation).heardOnto (operation.noted s heard) rest

/-- The events of a run since the last reset, each with the store that it came to. -/
def heard (s : Store) (operations : List Operation) : List (Store × Event) :=
  s.heardOnto [] operations

/-- What every operation keeps of a store and the events it heard since the last reset holds at the
end of a run. -/
theorem run_heard {P : Store → List (Store × Event) → Prop} (hstart : P s [])
    (hstep : ∀ s heard (operation : Operation), P s heard →
      P (s.perform operation) (operation.noted s heard))
    (operations : List Operation) : P (s.run operations) (s.heard operations) := by
  unfold heard
  generalize ([] : List (Store × Event)) = heard at hstart
  induction operations generalizing s heard with
  | nil => exact hstart
  | cons operation operations ih => exact ih _ (hstep s heard operation hstart)

/-- Showing one record in full or short changes at most that record, and only how it is shown. -/
theorem perform_toggle (s : Store) (connection : ConnectionId) (command : CommandId) :
    s.perform (.toggle connection command) = s ∨
      ∃ key, s.newestKey? connection command = some key ∧
        s.perform (.toggle connection command) =
          s.updateRecord key fun r ↦ { r with expanded := !r.expanded } := by
  cases hkey : s.newestKey? connection command with
  | none => exact Or.inl (by simp only [perform, toggle, hkey])
  | some key =>
    cases hrecord : s.record? key with
    | none => exact Or.inl (by simp only [perform, toggle, hkey, hrecord])
    | some record => exact Or.inr ⟨key, rfl, by simp only [perform, toggle, hkey, hrecord]⟩

/-! ### How records are shown -/

/-- What is recorded under a key, apart from whether it is shown in full. -/
def content? (s : Store) (key : RecordKey) : Option RecordedQuery :=
  (s.record? key).map (·.apartFromExpanded)

theorem isPending_eq_of_content? {t : Store} {key : RecordKey}
    (hcontent : t.content? key = s.content? key) : t.isPending key = s.isPending key := by
  have hany : ∀ u : Store, u.isPending key = (u.content? key).any (·.isPending) := by
    intro u
    unfold isPending content?
    cases u.record? key <;> rfl
  rw [hany, hany, hcontent]

/-- Two stores are alike: they differ at most in how their records are shown. -/
structure Alike (s t : Store) : Prop where
  rest : t = { s with records := t.records }
  content : ∀ key, t.content? key = s.content? key

namespace Alike

variable {t u : Store} {key : RecordKey}

theorem refl (s : Store) : s.Alike s := ⟨rfl, fun _ ↦ rfl⟩

theorem symm (h : s.Alike t) : t.Alike s := by
  refine ⟨?_, fun key ↦ (h.content key).symm⟩
  rw [h.rest]

theorem trans (h : s.Alike t) (hnext : t.Alike u) : s.Alike u := by
  refine ⟨?_, fun key ↦ (hnext.content key).trans (h.content key)⟩
  rw [hnext.rest, h.rest]

theorem mem_records_iff (h : s.Alike t) : key ∈ t.records ↔ key ∈ s.records := by
  have hisSome := congrArg Option.isSome (h.content key)
  simp only [content?, record?, Option.isSome_map] at hisSome
  rw [Std.ExtTreeMap.mem_iff_isSome_getElem?, Std.ExtTreeMap.mem_iff_isSome_getElem?, hisSome]

theorem isPending_eq (h : s.Alike t) (key : RecordKey) : t.isPending key = s.isPending key :=
  isPending_eq_of_content? (h.content key)

end Alike

/-- Whether an operation is one of those that change only how records are shown. -/
def Operation.isShowing : Operation → Bool
  | toggle _ _ => true
  | expandAll _ => true
  | event _ => false
  | reset => false

theorem Operation.cases_isShowing (operation : Operation) :
    operation.isShowing = true ∨ operation = .reset ∨ ∃ e, operation = .event e := by
  cases operation with
  | event e => exact Or.inr (Or.inr ⟨e, rfl⟩)
  | toggle connection command => exact Or.inl rfl
  | expandAll expanded => exact Or.inl rfl
  | reset => exact Or.inr (Or.inl rfl)

theorem noted_of_isShowing {operation : Operation} (hshowing : operation.isShowing = true)
    (heard : List (Store × Event)) : operation.noted s heard = heard := by
  cases operation with
  | event e => cases hshowing
  | reset => cases hshowing
  | toggle connection command => rfl
  | expandAll expanded => rfl

/-- Showing records in full or short changes the records only, and of these only how they are
shown. -/
theorem perform_of_isShowing {operation : Operation} (hshowing : operation.isShowing = true) :
    s.Alike (s.perform operation) := by
  cases operation with
  | event e => cases hshowing
  | reset => cases hshowing
  | toggle connection command =>
    rcases perform_toggle s connection command with heq | ⟨key, -, heq⟩
    · rw [heq]
      exact Alike.refl s
    · rw [heq]
      refine ⟨rfl, fun other ↦ ?_⟩
      simp only [content?, record?, updateRecord, Std.ExtTreeMap.getElem?_modify,
        Std.compare_eq_iff_eq]
      split
      next hsame =>
        subst hsame
        cases s.records[key]? <;> rfl
      next => rfl
  | expandAll expanded =>
    refine ⟨rfl, fun key ↦ ?_⟩
    simp only [content?, record?, perform, Store.expandAll, Std.ExtTreeMap.getElem?_map]
    cases s.records[key]? <;> rfl

/-! ### Coherence -/

theorem Coherent.perform (h : s.Coherent) (operation : Operation) :
    (s.perform operation).Coherent := by
  cases operation with
  | event e => exact h.receive e
  | toggle connection command =>
    rcases perform_toggle s connection command with heq | ⟨key, -, heq⟩
    · rwa [heq]
    · rw [heq]
      exact h.updateRecord key fun _ ↦ rfl
  | expandAll expanded => exact h.expandAll expanded
  | reset => exact (coherent_empty s.settings).congr rfl rfl rfl rfl

theorem Coherent.run (h : s.Coherent) (operations : List Operation) :
    (s.run operations).Coherent := by
  induction operations generalizing s with
  | nil => exact h
  | cons operation operations ih => exact ih (h.perform operation)

theorem Coherent.settings_perform (h : s.Coherent) (operation : Operation) :
    (s.perform operation).settings = s.settings := by
  rcases operation.cases_isShowing with hshowing | rfl | ⟨e, rfl⟩
  · rw [(perform_of_isShowing hshowing).rest]
  · rfl
  · exact (h.step_receive e).settings_eq

theorem Coherent.settings_run (h : s.Coherent) (operations : List Operation) :
    (s.run operations).settings = s.settings := by
  induction operations generalizing s with
  | nil => rfl
  | cons operation operations ih =>
    exact (ih (h.perform operation)).trans (h.settings_perform operation)

/-! ### How many sessions there are -/

theorem Coherent.length_sessions_perform_le (h : s.Coherent) (operation : Operation) :
    (s.perform operation).sessions.length ≤ s.sessions.length + 1 := by
  rcases operation.cases_isShowing with hshowing | rfl | ⟨e, rfl⟩
  · rw [(perform_of_isShowing hshowing).rest]
    exact Nat.le_succ _
  · exact Nat.zero_le _
  · exact (h.step_receive e).length_sessions_le

theorem Coherent.length_sessions_run_le (h : s.Coherent) (operations : List Operation) :
    (s.run operations).sessions.length ≤ s.sessions.length + operations.length := by
  induction operations generalizing s with
  | nil => exact Nat.le_refl _
  | cons operation operations ih =>
    have hstep := h.length_sessions_perform_le operation
    have hrest := ih (h.perform operation)
    rw [List.length_cons]
    exact Nat.le_trans hrest (by omega)

theorem Indexed.generation_lt_length (h : s.Indexed) {id : SessionId} (hid : id ∈ s.ids) :
    id.generation < s.sessions.length := by
  have hlt := h.mem_ids_iff.mp hid
  have hle : s.generations id.connection ≤ s.ids.length := List.length_filter_le _ _
  rw [ids, List.length_map] at hle
  exact Nat.lt_of_lt_of_le hlt hle

theorem Coherent.sessionForQuery_lt (h : s.Coherent) (connection : ConnectionId) :
    (s.sessionForQuery connection).1 < (s.sessionForQuery connection).2.2.2.sessions.length := by
  obtain ⟨place, x, change, t, heq, hdest⟩ := h.exists_destination connection
  rw [heq]
  exact (List.getElem?_eq_some_iff.mp
    (hdest.coherent.newestPlaced?_eq_some_iff.mp hdest.found).1).1

/-- In every store that a run reaches from an empty one, the sessions, their two indexes, the
records and the lists of commands agree; no two sessions have the same id; exactly the connections
without sessions have no newest one; each place in the indexes, and the one a new query goes to, is
in the list of sessions; and no generation reaches the number of steps. -/
theorem coherent_in_bounds_run (settings : StoreSettings) (operations : List Operation) :
    let s := (empty settings).run operations
    s.Coherent ∧ s.ids.Nodup ∧
      (∀ connection : ConnectionId,
        s.newestPlaceOf[connection]? = none ↔ s.sessionsOf connection = []) ∧
      (∀ (id : SessionId) (place : Nat), s.placeOf[id]? = some place →
        place < s.sessions.length) ∧
      (∀ (connection : ConnectionId) (place : Nat), s.newestPlaceOf[connection]? = some place →
        place < s.sessions.length) ∧
      (∀ connection, (s.sessionForQuery connection).1 <
        (s.sessionForQuery connection).2.2.2.sessions.length) ∧
      ∀ id ∈ s.ids, id.generation < operations.length := by
  intro s
  have h : s.Coherent := (coherent_empty settings).run operations
  refine ⟨h, h.nodup_ids, fun connection ↦ ?_, fun _ _ ↦ h.placeOf_lt,
    fun _ _ ↦ h.newestPlaceOf_lt, h.sessionForQuery_lt, fun id hid ↦ ?_⟩
  · rw [h.newestPlaceOf_eq_none_iff, generations, idsOf_eq_map_sessionsOf, List.length_map,
      List.length_eq_zero_iff]
  · have hlength := (coherent_empty settings).length_sessions_run_le operations
    have hlt := h.generation_lt_length hid
    simp only [empty, List.length_nil, Nat.zero_add] at hlength
    exact Nat.lt_of_lt_of_le hlt hlength

end Store
end QueryWatch

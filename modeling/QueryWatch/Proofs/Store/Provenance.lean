import QueryWatch.Proofs.Store.Run
import QueryWatch.Proofs.Store.Waiting
import QueryWatch.Proofs.Telemetry.Validation

/-!
Where the things in a store come from. A session has the connection of the event that opened it, a
result that waits is one that came, and a record is the query that was issued, resolved by results
that came (`Step.record_origin`). So a store is well-formed as long as the events are: waiting,
reconciling, resolving late and overwriting make nothing else of them (`WellFormed.step`,
`WellFormed.run`).
-/

set_option autoImplicit false

namespace QueryWatch

/-- A record of a well-formed query, with a message only if the query failed. -/
structure RecordedQuery.WellFormed (r : RecordedQuery) : Prop where
  query : r.query.WellFormed
  message : ∀ x, r.resolution = some x → IsMessageFor x.status x.message

theorem QueryResult.WellFormed.resolution {r : QueryResult} (h : r.WellFormed) :
    IsMessageFor r.resolution.status r.resolution.message := by
  intro t ht
  cases hstatus : r.status with
  | ok => simp [QueryResult.resolution, hstatus] at ht
  | error =>
    simp only [QueryResult.resolution, hstatus] at ht
    exact ⟨hstatus, (h.message t ht).2⟩

namespace Store

variable {s t : Store} {e : Event} {key : RecordKey} {r : RecordedQuery}

/-- All that is kept is well-formed. -/
structure WellFormed (s : Store) : Prop where
  sessions : ∀ x ∈ s.sessions, IsName x.id.connection
  records : ∀ key r, s.record? key = some r → r.WellFormed
  orphans : ∀ o ∈ s.orphans, o.WellFormed

theorem wellFormed_empty (settings : StoreSettings) : (empty settings).WellFormed where
  sessions := nofun
  records := nofun
  orphans := nofun

/-! ### Origins -/

/-- The record that a query gets is the query, resolved by a result that waited if at all. -/
theorem resolution_recordFor {query : Query} {generation : Nat} {x : Resolution}
    (hx : (s.recordFor query generation).resolution = some x) :
    ∃ o ∈ s.orphans, x = o.resolution := by
  obtain ⟨o, ho, rfl⟩ := Option.map_eq_some_iff.mp hx
  exact ⟨o, List.mem_of_find?_eq_some ho, rfl⟩

/-- A record was there, or it was resolved by the result that came, or it is that of the query that
was issued. -/
theorem Step.record_origin (h : s.Step e t) (hr : t.record? key = some r) :
    s.record? key = some r ∨
      (∃ old result, e = .result result ∧ s.record? key = some old ∧
        r = { old with resolution := some result.resolution }) ∨
      ∃ query, e = .issued query ∧ r.query = query ∧
        ∀ x, r.resolution = some x → ∃ o ∈ s.orphans, x = o.resolution := by
  by_cases hkey : key ∈ s.records
  · obtain ⟨old, hold⟩ := mem_records_iff_record?.mp hkey
    rcases h.record_cases hold with hsame | ⟨result, he, -, hresolved⟩
    · rw [hsame] at hr
      cases hr
      exact Or.inl hold
    · rw [hresolved] at hr
      cases hr
      exact Or.inr (Or.inl ⟨old, result, he, hold, rfl⟩)
  · obtain ⟨query, rfl, -⟩ := h.issued_of_not_mem hkey (mem_records_iff_record?.mpr ⟨r, hr⟩)
    refine Or.inr (Or.inr ⟨query, rfl, ?_⟩)
    cases h with
    | repeated hduplicate => exact absurd (mem_records_iff_record?.mpr ⟨r, hr⟩) hkey
    | @recorded query place x u hnew hdestination hconnection hfree =>
      have hrecords : u.records = s.records := hdestination.records_eq
      have horphans : u.orphans = s.orphans := hdestination.orphans_eq
      simp only [record?, withQuery, Std.ExtTreeMap.getElem?_insert, hrecords] at hr
      split at hr
      · cases hr
        exact ⟨rfl, fun y hy ↦ horphans ▸ resolution_recordFor hy⟩
      · exact absurd (mem_records_iff_record?.mpr ⟨r, hr⟩) hkey

theorem connection_of_mem_sessions_step (h : s.Step e t) {x : Session} (hx : x ∈ t.sessions) :
    (∃ y ∈ s.sessions, y.id = x.id) ∨ x.id.connection = e.connection := by
  have hid := mem_ids_of_mem hx
  rcases h.ids_eq with heq | heq
  · rw [heq] at hid
    exact Or.inl (List.mem_map.mp hid)
  · rw [heq, List.mem_append, List.mem_singleton] at hid
    rcases hid with hold | hnew
    · exact Or.inl (List.mem_map.mp hold)
    · exact Or.inr (congrArg SessionId.connection hnew)

/-! ### Every step -/

namespace WellFormed

theorem congr (h : s.WellFormed) (hsessions : t.sessions = s.sessions)
    (hrecords : ∀ key, t.content? key = s.content? key) (horphans : t.orphans = s.orphans) :
    t.WellFormed where
  sessions := hsessions ▸ h.sessions
  records := by
    intro key r hr
    have hcontent := hrecords key
    rw [content?, hr, Option.map_some, eq_comm, content?, Option.map_eq_some_iff] at hcontent
    obtain ⟨old, hold, hsame⟩ := hcontent
    obtain ⟨hquery, hmessage⟩ := h.records key old hold
    have hq := congrArg RecordedQuery.query hsame
    have hx := congrArg RecordedQuery.resolution hsame
    change old.query = r.query at hq
    change old.resolution = r.resolution at hx
    exact ⟨hq ▸ hquery, hx ▸ hmessage⟩
  orphans := horphans ▸ h.orphans

theorem step (h : s.WellFormed) (hstep : s.Step e t) (he : e.WellFormed) : t.WellFormed where
  sessions := by
    intro x hx
    rcases connection_of_mem_sessions_step hstep hx with ⟨y, hy, hid⟩ | hconnection
    · exact hid ▸ h.sessions y hy
    · rw [hconnection]
      cases e with
      | session c stage => exact he
      | issued q => exact he.connection
      | result r => exact he.connection
  records := by
    intro key r hr
    rcases hstep.record_origin hr with hold | ⟨old, result, rfl, hold, rfl⟩ |
      ⟨query, rfl, hquery, hresolution⟩
    · exact h.records key r hold
    · refine ⟨(h.records key old hold).query, fun x hx ↦ ?_⟩
      cases hx
      exact QueryResult.WellFormed.resolution he
    · refine ⟨hquery ▸ he, fun x hx ↦ ?_⟩
      obtain ⟨o, ho, rfl⟩ := hresolution x hx
      exact (h.orphans o ho).resolution
  orphans := by
    intro o ho
    rcases hstep.mem_orphans ho with hold | rfl
    · exact h.orphans o hold
    · exact he

/-- Nothing but an ill-formed event makes a store ill-formed. -/
theorem perform (h : s.WellFormed) (hs : s.Coherent) (operation : Operation)
    (hevent : ∀ e, operation = .event e → e.WellFormed) : (s.perform operation).WellFormed := by
  rcases operation.cases_isShowing with hshowing | rfl | ⟨e, rfl⟩
  · obtain ⟨heq, hcontent⟩ := perform_of_isShowing (s := s) hshowing
    exact h.congr (by rw [heq]) hcontent (by rw [heq])
  · exact (wellFormed_empty s.settings).congr rfl (fun _ ↦ rfl) rfl
  · exact h.step (hs.step_receive e) (hevent e rfl)

theorem run (h : s.WellFormed) (hs : s.Coherent) (operations : List Operation)
    (hevents : ∀ e, .event e ∈ operations → e.WellFormed) : (s.run operations).WellFormed := by
  induction operations generalizing s with
  | nil => exact h
  | cons operation operations ih =>
    have hfirst := h.perform hs operation fun e he ↦ hevents e (he ▸ List.mem_cons_self)
    exact ih hfirst (hs.perform operation) fun e he ↦ hevents e (List.mem_cons_of_mem _ he)

end WellFormed

end Store
end QueryWatch

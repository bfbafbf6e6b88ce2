import Mathlib.Algebra.GroupWithZero.Nat
import QueryWatch.Dashboard.View
import QueryWatch.Proofs.Dashboard.Run
import QueryWatch.Proofs.Filter

/-!
What a dashboard shows agrees with itself. The rows, the numbers in them and the list of queries are
found in different ways; `visibleIn_groups` says what the number in a row counts,
`queries_view_of_active` what the list of queries consists of, and `length_queries_view` that the
numbers in the selected rows add up to its length. `view_run` has all of it for every dashboard that
a run reaches.
-/

set_option autoImplicit false

namespace QueryWatch

namespace Dashboard

variable {s : Store} {f : Filter} {d : Dashboard} {connection : ConnectionId}

/-! ### Rows -/

/-- A row counts what the filter shows of its session. -/
theorem visibleIn_groups {x : Session} (hx : x ∈ s.sessions) :
    visibleIn (s.groups f) x.id = (s.filtered x.id f).length := by
  unfold visibleIn
  cases hfound : (s.groups f).find? (·.session = x.id) with
  | none =>
    have hungrouped : s.isGrouped f x = false := by
      rw [← Bool.not_eq_true]
      intro hgrouped
      have hgroup := Store.mem_groups_iff.mpr ⟨x, hx, hgrouped, rfl⟩
      exact List.find?_eq_none.mp hfound _ hgroup (decide_eq_true rfl)
    rw [(Store.isGrouped_eq_false_iff.mp hungrouped).2]
    rfl
  | some group =>
    have hsession : group.session = x.id := by simpa using List.find?_some hfound
    obtain ⟨y, -, -, rfl⟩ := Store.mem_groups_iff.mp (List.mem_of_find?_eq_some hfound)
    dsimp only at hsession ⊢
    rw [hsession]

/-- The rows of a view, one for each session. -/
theorem sessions_view (d : Dashboard) : d.view.sessions =
    d.store.sessions.map fun x ↦
      ⟨x, d.focus.isOn x.id.connection, (d.store.filtered x.id d.filter.applied).length⟩ := by
  refine List.map_congr_left fun x hx ↦ ?_
  rw [visibleIn_groups hx]

theorem isOn_eq_true_iff {focus : Focus} : focus.isOn connection = true ↔
    focus.active = some connection := by
  rw [Focus.isOn, decide_eq_true_iff]

/-! ### Queries -/

theorem queries_view_of_inactive (hactive : d.focus.active = none) : d.view.queries = [] := by
  unfold view
  dsimp only
  rw [hactive]

/-- The queries of a view are those that the filter shows of the connection in focus. -/
theorem queries_view (hactive : d.focus.active = some connection) :
    d.view.queries = (d.store.sessionsOf connection).flatMap fun x ↦
      d.store.filtered x.id d.filter.applied := by
  unfold view
  dsimp only
  rw [hactive, ← Store.flatMap_filter_groups]

/-- They stand generation by generation. -/
theorem queries_view_of_active (hs : d.store.Indexed) (hactive : d.focus.active = some connection) :
    d.view.queries = (List.range (d.store.generations connection)).flatMap fun generation ↦
      d.store.filtered ⟨connection, generation⟩ d.filter.applied := by
  have hids : (d.store.sessionsOf connection).map (·.id) =
      (List.range (d.store.generations connection)).map (SessionId.mk connection) := by
    rw [← Store.idsOf_eq_map_sessionsOf, hs.numbered]
  calc d.view.queries
      = ((d.store.sessionsOf connection).map (·.id)).flatMap fun id ↦
          d.store.filtered id d.filter.applied := by
        rw [queries_view hactive, List.flatMap_map]
    _ = (List.range (d.store.generations connection)).flatMap fun generation ↦
          d.store.filtered ⟨connection, generation⟩ d.filter.applied := by
        rw [hids, List.flatMap_map]

/-- The numbers in the selected rows add up to the number of queries shown. -/
theorem length_queries_view (d : Dashboard) : d.view.queries.length =
    ((d.view.sessions.filter (·.isSelected)).map (·.visibleQueries)).sum := by
  have hrows : (d.view.sessions.filter (·.isSelected)).map (·.visibleQueries) =
      (d.store.sessions.filter fun x ↦ d.focus.isOn x.id.connection).map fun x ↦
        (d.store.filtered x.id d.filter.applied).length := by
    rw [sessions_view, List.filter_map, List.map_map]
    rfl
  rw [hrows]
  cases hactive : d.focus.active with
  | none =>
    have hnone : (d.store.sessions.filter fun x ↦ d.focus.isOn x.id.connection) = [] := by
      refine List.filter_eq_nil_iff.mpr fun x _ hon ↦ ?_
      rw [isOn_eq_true_iff, hactive] at hon
      cases hon
    rw [queries_view_of_inactive hactive, hnone]
    rfl
  | some connection =>
    have hsame : (d.store.sessions.filter fun x ↦ d.focus.isOn x.id.connection) =
        d.store.sessionsOf connection := by
      refine List.filter_congr fun x _ ↦ ?_
      rw [Bool.eq_iff_iff, isOn_eq_true_iff, hactive, decide_eq_true_iff, Option.some.injEq,
        eq_comm]
    rw [hsame, queries_view hactive, List.length_flatMap]

/-! ### Every view -/

/-- In every dashboard that a run reaches, the view agrees with itself. Its rows are the sessions of
the store, by rising number; a row counts the records of its session that match the filter, and is
selected if its connection is in focus. The queries are the matching records of the connection in
focus, generation by generation and within one by rising number, so there are as many as the
selected rows count. Under the empty filter every row counts all queries of its session, and
together they count all there are. A connection has at most one row that is live, which is that of
its newest generation. -/
theorem view_run (settings : DashboardSettings) (operations : List Operation) :
    let d := (ofSettings settings).run operations
    let s := d.store
    let rows := d.view.sessions
    let matching (id : SessionId) := (s.recordsOf id).filter fun r ↦
      d.filter.applied.Matches r.query.text
    (∀ id, (s.recordsOf id).Pairwise (fun earlier later ↦ earlier.received < later.received) ∧
        ∀ r, r ∈ s.recordsOf id ↔ ∃ command, s.record? ⟨id, command⟩ = some r) ∧
      rows.map (·.session) = s.sessions ∧ (s.sessions.map (·.firstSeen)).Pairwise (· < ·) ∧
      (∀ row ∈ rows, row.visibleQueries = (matching row.session.id).length ∧
        (row.isSelected = true ↔ d.focus.active = some row.session.id.connection)) ∧
      (d.view.queries = match d.focus.active with
        | none => []
        | some connection => (List.range (s.sessionsOf connection).length).flatMap fun generation ↦
            matching ⟨connection, generation⟩) ∧
      d.view.queries.length = ((rows.filter (·.isSelected)).map (·.visibleQueries)).sum ∧
      (d.filter.applied.text = "" →
        (∀ row ∈ rows, row.visibleQueries = row.session.queryCount) ∧
        (rows.map (·.visibleQueries)).sum = d.view.recordCount) ∧
      ∀ row ∈ rows, row.session.isLive = true → ∀ other ∈ rows,
        other.session.id.connection = row.session.id.connection →
        other.session.id.generation ≤ row.session.id.generation ∧
          (other.session.isLive = true → other = row) := by
  intro d s rows matching
  obtain ⟨hs, hchronological⟩ := coherent_chronological_run settings operations
  have hrows : rows = s.sessions.map fun x ↦
      ⟨x, d.focus.isOn x.id.connection, (matching x.id).length⟩ := by
    refine (sessions_view d).trans (List.map_congr_left fun x _ ↦ ?_)
    rw [Store.filtered_eq]
  have hmem : ∀ row ∈ rows, ∃ x ∈ s.sessions,
      row = ⟨x, d.focus.isOn x.id.connection, (matching x.id).length⟩ := by
    intro row hrow
    rw [hrows] at hrow
    obtain ⟨x, hx, rfl⟩ := List.mem_map.mp hrow
    exact ⟨x, hx, rfl⟩
  refine ⟨fun id ↦ ⟨hchronological.pairwise_recordsOf hs.toIndexed id,
    fun r ↦ hs.mem_recordsOf_iff⟩, ?_, hchronological.opened, ?_, ?_,
    length_queries_view d, ?_, ?_⟩
  · rw [hrows, List.map_map]
    exact List.map_id _
  · intro row hrow
    obtain ⟨x, -, rfl⟩ := hmem row hrow
    exact ⟨rfl, isOn_eq_true_iff⟩
  · cases hactive : d.focus.active with
    | none => exact queries_view_of_inactive hactive
    | some connection =>
      rw [queries_view_of_active hs.toIndexed hactive]
      simp only [Store.filtered_eq, Store.generations, Store.idsOf_eq_map_sessionsOf,
        List.length_map]
      rfl
  · intro hempty
    have hall : ∀ id, matching id = s.recordsOf id := by
      intro id
      rw [← Store.filtered_of_text_eq hempty id, Store.filtered_eq]
    refine ⟨fun row hrow ↦ ?_, ?_⟩
    · obtain ⟨x, hx, rfl⟩ := hmem row hrow
      dsimp only
      rw [hall, hs.length_recordsOf hx]
    · rw [hrows, List.map_map]
      simp only [Function.comp_def, hall]
      rw [← List.length_flatMap]
      exact hs.length_listed
  · intro row hrow hlive other hother hconnection
    obtain ⟨x, hx, rfl⟩ := hmem row hrow
    obtain ⟨y, hy, rfl⟩ := hmem other hother
    obtain ⟨hle, hsame⟩ := hs.generation_le_of_isLive hx hlive hy hconnection
    exact ⟨hle, fun hlive' ↦ by rw [hsame hlive']⟩

/-- Two generations of a connection in focus and a session of another one. -/
theorem view_run_reused :
    let d := (ofSettings {}).run [.event (.issued ⟨"1", 1, none, "SELECT 1", [], true⟩),
      .event (.session "1" .finished), .event (.issued ⟨"1", 2, none, "SELECT 2", [], true⟩),
      .event (.issued ⟨"2", 1, none, "SELECT 3", [], true⟩)]
    d.view.queries.map (·.key) = [⟨⟨"1", 0⟩, 1⟩, ⟨⟨"1", 1⟩, 2⟩] ∧
      ((d.view.sessions.filter (·.isSelected)).map (·.visibleQueries)).sum = 2 ∧
      (d.view.sessions.map (·.visibleQueries)).sum = d.view.recordCount := by
  intro d
  obtain ⟨-, -, -, -, -, hlength, hempty, -⟩ := view_run {}
    [.event (.issued ⟨"1", 1, none, "SELECT 1", [], true⟩), .event (.session "1" .finished),
      .event (.issued ⟨"1", 2, none, "SELECT 2", [], true⟩),
      .event (.issued ⟨"2", 1, none, "SELECT 3", [], true⟩)]
  have hkeys : d.view.queries.map (·.key) = [⟨⟨"1", 0⟩, 1⟩, ⟨⟨"1", 1⟩, 2⟩] := by decide
  refine ⟨hkeys, ?_, (hempty rfl).2⟩
  rw [← hlength, ← List.length_map, hkeys]
  rfl

end Dashboard
end QueryWatch

import QueryWatch.Filter
import QueryWatch.Proofs.Store.Chronology
import QueryWatch.Proofs.Store.Records
import QueryWatch.Proofs.Text.Search

/-!
What a filter shows of a store. A filter accepts a query if its lower-case text stands in that of
the query (`Filter.accepts_iff`). `groups_eq` gives the groups as those of the sessions that have
one, and `groups_run` says of every store a run reaches that filtering loses no record, lists none
twice and keeps the order in which sessions were first seen and queries were issued.
-/

set_option autoImplicit false

namespace QueryWatch

namespace Filter

/-- Whether a query's text has the filter's text in it, both in lower case. -/
def Matches (f : Filter) (query : String) : Prop :=
  Text.lowerCase f.text.toList <:+: Text.lowerCase query.toList

theorem isEmpty_iff {f : Filter} : f.isEmpty = true ↔ f.text = "" := by
  rw [isEmpty, folded, List.isEmpty_iff, Text.lowerCase_eq_nil_iff, String.toList_eq_nil_iff]

/-- A filter accepts the queries that match it; all match the empty one. -/
theorem accepts_iff {f : Filter} {query : String} : f.accepts query = true ↔ f.Matches query := by
  unfold accepts Matches
  rw [Bool.or_eq_true, Text.occursIn_iff]
  constructor
  · rintro (hempty | hmatch)
    · rw [isEmpty_iff] at hempty
      rw [hempty]
      exact List.nil_infix
    · exact hmatch
  · exact Or.inr

instance (f : Filter) (query : String) : Decidable (f.Matches query) :=
  decidable_of_iff _ accepts_iff

theorem matches_of_text_eq {f : Filter} (hempty : f.text = "") (query : String) :
    f.Matches query := by
  rw [← accepts_iff, accepts, isEmpty_iff.mpr hempty, Bool.true_or]

end Filter

namespace Store

variable {s : Store} {f : Filter} {id : SessionId} {r : RecordedQuery}

/-! ### The records of one session -/

/-- What a filter shows of a session are those of its records that match. -/
theorem Coherent.mem_filtered_iff (hs : s.Coherent) : r ∈ s.filtered id f ↔
    (∃ command, s.record? ⟨id, command⟩ = some r) ∧ f.Matches r.query.text := by
  rw [filtered, List.mem_filter, hs.mem_recordsOf_iff, ← Filter.accepts_iff]
  rfl

theorem filtered_eq (s : Store) (id : SessionId) (f : Filter) :
    s.filtered id f = (s.recordsOf id).filter fun r ↦ f.Matches r.query.text := by
  refine List.filter_congr fun r _ ↦ ?_
  rw [Bool.eq_iff_iff, decide_eq_true_iff]
  exact Filter.accepts_iff

theorem Chronological.pairwise_filtered (h : s.Chronological) (hs : s.Indexed) (id : SessionId)
    (f : Filter) :
    (s.filtered id f).Pairwise fun earlier later ↦ earlier.received < later.received :=
  (h.pairwise_recordsOf hs id).filter f.accepted

theorem filtered_of_text_eq (hempty : f.text = "") (id : SessionId) :
    s.filtered id f = s.recordsOf id := by
  refine List.filter_eq_self.mpr fun r _ ↦ ?_
  exact Filter.accepts_iff.mpr (Filter.matches_of_text_eq hempty _)

/-! ### The groups -/

/-- Whether a session has a group. -/
def isGrouped (s : Store) (f : Filter) (x : Session) : Bool :=
  f.isEmpty || !(s.filtered x.id f).isEmpty

theorem isGrouped_eq_false_iff {x : Session} :
    s.isGrouped f x = false ↔ f.text ≠ "" ∧ s.filtered x.id f = [] := by
  rw [isGrouped, Bool.or_eq_false_iff, Bool.not_eq_false', List.isEmpty_iff,
    ← Bool.not_eq_true, Filter.isEmpty_iff]

/-- The groups are those of the sessions that have one, in the order of the sessions. -/
theorem groups_eq (s : Store) (f : Filter) : s.groups f =
    (s.sessions.filter (s.isGrouped f)).map fun x ↦ ⟨x.id, s.filtered x.id f⟩ := by
  rw [groups, ← List.filterMap_eq_map, List.filterMap_filter]
  refine List.filterMap_congr fun x _ ↦ ?_
  by_cases hempty : f.isEmpty = true <;> by_cases hnone : s.filtered x.id f = [] <;>
    simp [isGrouped, hempty, hnone]

theorem map_session_groups (s : Store) (f : Filter) :
    (s.groups f).map (·.session) = (s.sessions.filter (s.isGrouped f)).map (·.id) := by
  rw [groups_eq, List.map_map]
  rfl

theorem mem_groups_iff {g : FilteredSession} : g ∈ s.groups f ↔
    ∃ x ∈ s.sessions, s.isGrouped f x = true ∧ g = ⟨x.id, s.filtered x.id f⟩ := by
  rw [groups_eq, List.mem_map]
  constructor
  · rintro ⟨x, hx, rfl⟩
    obtain ⟨hmem, hgrouped⟩ := List.mem_filter.mp hx
    exact ⟨x, hmem, hgrouped, rfl⟩
  · rintro ⟨x, hmem, hgrouped, rfl⟩
    exact ⟨x, List.mem_filter.mpr ⟨hmem, hgrouped⟩, rfl⟩

/-- Groups stand in the order of the sessions. -/
theorem sublist_map_session_groups (s : Store) (f : Filter) :
    ((s.groups f).map (·.session)).Sublist s.ids := by
  rw [map_session_groups]
  exact List.filter_sublist.map _

/-- A session is left out if the filter is not empty and none of its records match. -/
theorem Coherent.not_mem_map_session_groups_iff (hs : s.Coherent) (hid : id ∈ s.ids) :
    id ∉ (s.groups f).map (·.session) ↔ f.text ≠ "" ∧
      ∀ command r, s.record? ⟨id, command⟩ = some r → ¬ f.Matches r.query.text := by
  obtain ⟨x, hx, rfl⟩ := List.mem_map.mp hid
  have hgroup : x.id ∈ (s.groups f).map (·.session) ↔ s.isGrouped f x = true := by
    rw [map_session_groups, List.mem_map]
    constructor
    · rintro ⟨y, hy, hsame⟩
      obtain ⟨hmem, hgrouped⟩ := List.mem_filter.mp hy
      rwa [← hs.eq_of_id_eq hmem hx hsame]
    · intro hgrouped
      exact ⟨x, List.mem_filter.mpr ⟨hx, hgrouped⟩, rfl⟩
  rw [hgroup, Bool.not_eq_true, isGrouped_eq_false_iff, List.eq_nil_iff_forall_not_mem]
  refine and_congr_right fun _ ↦ ⟨fun hnone command r hr hmatch ↦ ?_, fun hnone r hr ↦ ?_⟩
  · exact hnone r (hs.mem_filtered_iff.mpr ⟨⟨command, hr⟩, hmatch⟩)
  · obtain ⟨⟨command, hfound⟩, hmatch⟩ := hs.mem_filtered_iff.mp hr
    exact hnone command r hfound hmatch

/-- Under an empty filter every session has all its records. -/
theorem groups_of_text_eq (hempty : f.text = "") :
    s.groups f = s.sessions.map fun x ↦ ⟨x.id, s.recordsOf x.id⟩ := by
  have hall : s.sessions.filter (s.isGrouped f) = s.sessions := by
    refine List.filter_eq_self.mpr fun x _ ↦ ?_
    rw [isGrouped, Filter.isEmpty_iff.mpr hempty, Bool.true_or]
  rw [groups_eq, hall]
  simp only [filtered_of_text_eq hempty]

theorem flatMap_groups_of_text_eq (hempty : f.text = "") :
    (s.groups f).flatMap (·.records) = s.listed := by
  rw [groups_of_text_eq hempty, List.flatMap_map]
  rfl

/-! ### Groups one behind the other -/

/-- Leaving out what has nothing to show changes nothing of what is shown. -/
theorem flatMap_filter_of_forall {α β : Type} {l : List α} {p : α → Bool} {g : α → List β}
    (hnothing : ∀ x ∈ l, p x = false → g x = []) : (l.filter p).flatMap g = l.flatMap g := by
  induction l with
  | nil => rfl
  | cons x rest ih =>
    have hrest := ih fun y hy ↦ hnothing y (List.mem_cons_of_mem x hy)
    cases hx : p x with
    | true => rw [List.filter_cons, hx, if_pos rfl, List.flatMap_cons, List.flatMap_cons, hrest]
    | false =>
      rw [List.filter_cons, hx, if_neg Bool.false_ne_true, List.flatMap_cons,
        hnothing x List.mem_cons_self hx, List.nil_append, hrest]

/-- The groups of a connection show what the filter shows of its sessions, oldest first. -/
theorem flatMap_filter_groups (s : Store) (f : Filter) (connection : ConnectionId) :
    ((s.groups f).filter (·.session.connection = connection)).flatMap (·.records) =
      (s.sessionsOf connection).flatMap fun x ↦ s.filtered x.id f := by
  calc ((s.groups f).filter (·.session.connection = connection)).flatMap (·.records)
      = ((s.sessionsOf connection).filter (s.isGrouped f)).flatMap fun x ↦ s.filtered x.id f := by
        rw [groups_eq, List.filter_map, List.flatMap_map, List.filter_filter, sessionsOf,
          List.filter_filter]
        simp only [Function.comp_def, Bool.and_comm]
    _ = (s.sessionsOf connection).flatMap fun x ↦ s.filtered x.id f := by
        refine flatMap_filter_of_forall fun x _ hungrouped ↦ ?_
        exact (isGrouped_eq_false_iff.mp hungrouped).2

/-- In every store that a run reaches, a filter has at most one group for each session, in the order
in which sessions were first seen. The group of a session has exactly those of its records that
match, by rising number. A session is left out exactly if the filter is not empty and none of its
records match. Under the empty filter every session has its group, and the groups one behind the
other have every record of the store exactly once. -/
theorem groups_run (settings : StoreSettings) (operations : List Operation) (f : Filter) :
    let s := (empty settings).run operations
    let groups := s.groups f
    (s.sessions.map (·.firstSeen)).Pairwise (· < ·) ∧
      (groups.map (·.session)).Sublist s.ids ∧ (groups.map (·.session)).Nodup ∧
      (∀ g ∈ groups,
        g.records.Pairwise (fun earlier later ↦ earlier.received < later.received) ∧
        ∀ r, r ∈ g.records ↔
          (∃ command, s.record? ⟨g.session, command⟩ = some r) ∧ f.Matches r.query.text) ∧
      (∀ id ∈ s.ids, id ∉ groups.map (·.session) ↔ f.text ≠ "" ∧
        ∀ command r, s.record? ⟨id, command⟩ = some r → ¬ f.Matches r.query.text) ∧
      (f.text = "" → groups.map (·.session) = s.ids ∧
        (groups.flatMap (·.records)).Nodup ∧
        (∀ r, r ∈ groups.flatMap (·.records) ↔ ∃ key, s.record? key = some r) ∧
        (groups.flatMap (·.records)).length = s.recordCount) := by
  intro s groups
  have hs : s.Coherent := (coherent_empty settings).run operations
  have hchronological : s.Chronological := chronological_run settings operations
  have hsublist : (groups.map (·.session)).Sublist s.ids := sublist_map_session_groups s f
  refine ⟨hchronological.opened, hsublist, hs.nodup_ids.sublist hsublist, ?_, ?_, ?_⟩
  · intro g hg
    obtain ⟨x, -, -, rfl⟩ := mem_groups_iff.mp hg
    exact ⟨hchronological.pairwise_filtered hs.toIndexed x.id f, fun r ↦ hs.mem_filtered_iff⟩
  · intro id hid
    exact hs.not_mem_map_session_groups_iff hid
  · intro hempty
    have hall : groups.flatMap (·.records) = s.listed := flatMap_groups_of_text_eq hempty
    refine ⟨?_, ?_, ?_, ?_⟩
    · rw [show groups = s.groups f from rfl, groups_of_text_eq hempty, List.map_map]
      rfl
    · rw [hall]
      exact hs.nodup_keys_listed.of_map _
    · intro r
      rw [hall]
      exact hs.mem_listed_iff
    · rw [hall]
      exact hs.length_listed

/-- Two generations of a connection and a connection without queries, under the empty filter and
under one that is written in another case than the query it finds. -/
theorem groups_run_reused :
    let s := (empty {}).run [.event (.issued ⟨"1", 1, none, "SELECT name FROM Users", [], true⟩),
      .event (.session "1" .finished), .event (.issued ⟨"1", 2, none, "DELETE", [], true⟩),
      .event (.session "2" .started)]
    (s.groups ⟨""⟩).map (·.session) = s.ids ∧
      ((s.groups ⟨""⟩).flatMap (·.records)).length = s.recordCount ∧
      s.ids = [⟨"1", 0⟩, ⟨"1", 1⟩, ⟨"2", 0⟩] ∧
      (s.groups ⟨"uSeRs"⟩).map (·.session) = [⟨"1", 0⟩] := by
  intro s
  obtain ⟨-, -, -, -, -, hempty⟩ := groups_run {}
    [.event (.issued ⟨"1", 1, none, "SELECT name FROM Users", [], true⟩),
      .event (.session "1" .finished), .event (.issued ⟨"1", 2, none, "DELETE", [], true⟩),
      .event (.session "2" .started)] ⟨""⟩
  obtain ⟨hsessions, -, -, hlength⟩ := hempty rfl
  exact ⟨hsessions, hlength, by decide, by decide⟩

end Store
end QueryWatch

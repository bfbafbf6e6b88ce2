import Mathlib.Data.List.Perm.Subperm
import QueryWatch.Proofs.Store.Newest

/-!
The records, session by session. `Coherent.mem_recordsOf_iff` says that the records listed for a
session are those kept under it, and `Coherent.perm_listed` that the lists of all sessions, one
behind the other, have every record of the store exactly once.
-/

set_option autoImplicit false

namespace QueryWatch.Store

variable {s : Store} {id : SessionId} {r : RecordedQuery}

/-- The records of a session are those kept under it. -/
theorem Coherent.mem_recordsOf_iff (hs : s.Coherent) :
    r ∈ s.recordsOf id ↔ ∃ command, s.record? ⟨id, command⟩ = some r := by
  constructor
  · intro hr
    unfold recordsOf at hr
    split at hr
    · cases hr
    · obtain ⟨command, -, hfound⟩ := List.mem_filterMap.mp hr
      exact ⟨command, hfound⟩
  · rintro ⟨command, hfound⟩
    obtain ⟨x, hx, rfl, hcommand⟩ := (hs.recorded _).mp (mem_records_iff_record?.mpr ⟨r, hfound⟩)
    rw [recordsOf, hs.session?_eq_some_iff.mpr ⟨hx, rfl⟩]
    exact List.mem_filterMap.mpr ⟨command, hcommand, hfound⟩

theorem Coherent.session_eq_of_mem_recordsOf (hs : s.Coherent) (hr : r ∈ s.recordsOf id) :
    r.session = id := by
  obtain ⟨command, hfound⟩ := hs.mem_recordsOf_iff.mp hr
  exact congrArg RecordKey.session (hs.keyed _ r hfound)

/-- The records of a session stand in the order of its commands. -/
theorem Coherent.map_command_recordsOf (hs : s.Coherent) {x : Session} (hx : x ∈ s.sessions) :
    (s.recordsOf x.id).map (·.query.command) = x.commands := by
  have hrecords : ∀ commands : List CommandId,
      (∀ command ∈ commands, ⟨x.id, command⟩ ∈ s.records) →
      (commands.filterMap fun command ↦ s.record? ⟨x.id, command⟩).map (·.query.command) =
        commands := by
    intro commands hall
    induction commands with
    | nil => rfl
    | cons command rest ih =>
      obtain ⟨r, hr⟩ := mem_records_iff_record?.mp (hall command List.mem_cons_self)
      have hkey := hs.keyed _ r hr
      have hrest := ih fun other hother ↦ hall other (List.mem_cons_of_mem command hother)
      simp only [List.filterMap_cons, hr, List.map_cons, hrest]
      exact congrArg (·.command :: rest) hkey
  rw [recordsOf, hs.session?_eq_some_iff.mpr ⟨hx, rfl⟩]
  exact hrecords x.commands fun command ↦ (hs.mem_records_iff hx command).mpr

/-- A session has as many records as it counts. -/
theorem Coherent.length_recordsOf (hs : s.Coherent) {x : Session} (hx : x ∈ s.sessions) :
    (s.recordsOf x.id).length = x.queryCount := by
  rw [hs.counted x hx, ← hs.map_command_recordsOf hx, List.length_map]

/-! ### All records -/

/-- The records of all sessions, in the order of the sessions. -/
def listed (s : Store) : List RecordedQuery := s.sessions.flatMap fun x ↦ s.recordsOf x.id

theorem Coherent.mem_listed_iff (hs : s.Coherent) :
    r ∈ s.listed ↔ ∃ key, s.record? key = some r := by
  unfold listed
  rw [List.mem_flatMap]
  constructor
  · rintro ⟨x, -, hr⟩
    obtain ⟨command, hfound⟩ := hs.mem_recordsOf_iff.mp hr
    exact ⟨_, hfound⟩
  · rintro ⟨key, hfound⟩
    obtain ⟨x, hx, hid, -⟩ := (hs.recorded key).mp (mem_records_iff_record?.mpr ⟨r, hfound⟩)
    refine ⟨x, hx, hs.mem_recordsOf_iff.mpr ⟨key.command, ?_⟩⟩
    rw [hid]
    exact hfound

/-- No record is listed twice, since none is under two keys. -/
theorem Coherent.nodup_keys_listed (hs : s.Coherent) : (s.listed.map (·.key)).Nodup := by
  unfold listed
  rw [List.map_flatMap, List.nodup_flatMap]
  refine ⟨fun x hx ↦ ?_, ?_⟩
  · have hcommands : ((s.recordsOf x.id).map (·.query.command)).Nodup := by
      rw [hs.map_command_recordsOf hx]
      exact hs.distinct x hx
    refine List.Nodup.of_map (·.command) ?_
    rw [List.map_map]
    exact hcommands
  · refine (List.pairwise_map.mp hs.nodup_ids).imp fun hne key hx hy ↦ hne ?_
    obtain ⟨r, hr, rfl⟩ := List.mem_map.mp hx
    obtain ⟨r', hr', hkey⟩ := List.mem_map.mp hy
    have hsession : r'.session = r.session := congrArg RecordKey.session hkey
    rw [← hs.session_eq_of_mem_recordsOf hr, ← hs.session_eq_of_mem_recordsOf hr', hsession]

/-- The lists of the sessions have every record exactly once. -/
theorem Coherent.perm_listed (hs : s.Coherent) :
    (s.listed.map (·.key)).Perm s.records.keys := by
  rw [List.perm_ext_iff_of_nodup hs.nodup_keys_listed Std.ExtTreeMap.nodup_keys]
  intro key
  rw [Std.ExtTreeMap.mem_keys, mem_records_iff_record?, List.mem_map]
  constructor
  · rintro ⟨r, hr, rfl⟩
    obtain ⟨key, hfound⟩ := hs.mem_listed_iff.mp hr
    exact ⟨r, by rwa [hs.keyed key r hfound]⟩
  · rintro ⟨r, hfound⟩
    exact ⟨r, hs.mem_listed_iff.mpr ⟨key, hfound⟩, hs.keyed key r hfound⟩

theorem Coherent.length_listed (hs : s.Coherent) : s.listed.length = s.recordCount := by
  rw [recordCount, ← Std.ExtTreeMap.length_keys, ← hs.perm_listed.length_eq, List.length_map]

end QueryWatch.Store

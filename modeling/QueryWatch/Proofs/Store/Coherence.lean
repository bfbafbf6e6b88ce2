import QueryWatch.Proofs.Store.Indexes

/-!
A store keeps the same facts in several places: the list of sessions, the two indexes into it, the
records under their keys, and the commands that each session lists and counts. `Store.Coherent` says
that these agree. Each part of an update keeps a store coherent under what its callers make sure of:
`Coherent.openSession` that the id is the next generation and the one before is finished,
`Coherent.updateSession` that a session changes in nothing that is kept elsewhere too, and
`Coherent.insert` that the record has no predecessor.
-/

set_option autoImplicit false

namespace QueryWatch.Store

variable {s t : Store} {id : SessionId} {connection : ConnectionId} {key : RecordKey}

/-- The sessions, the indexes into them, the records and the lists of commands agree. -/
structure Coherent (s : Store) : Prop extends s.Indexed where
  /-- A session behind which there is a newer generation is finished. -/
  superseded : ∀ x ∈ s.sessions, x.id.generation + 1 < s.generations x.id.connection →
    x.stage = .finished
  /-- There is a record for exactly the commands that the sessions list. -/
  recorded : ∀ key : RecordKey,
    key ∈ s.records ↔ ∃ x ∈ s.sessions, x.id = key.session ∧ key.command ∈ x.commands
  /-- A record is kept under its own key. -/
  keyed : ∀ (key : RecordKey) (r : RecordedQuery), s.records[key]? = some r → r.key = key
  /-- A session lists no command twice. -/
  distinct : ∀ x ∈ s.sessions, x.commands.Nodup
  /-- A session counts the commands it lists. -/
  counted : ∀ x ∈ s.sessions, x.queryCount = x.commands.length

theorem coherent_empty (settings : StoreSettings) : (empty settings).Coherent where
  placed := by simp [empty, ids]
  numbered := by simp [empty, idsOf, generations, ids]
  newest := by simp [empty, ids]
  superseded := by simp [empty]
  recorded := by simp [empty]
  keyed := by simp [empty]
  distinct := by simp [empty]
  counted := by simp [empty]

namespace Coherent

/-- Coherence looks at the sessions, their indexes and the records only. -/
theorem congr (h : s.Coherent) (hsessions : t.sessions = s.sessions)
    (hplaceOf : t.placeOf = s.placeOf) (hnewest : t.newestPlaceOf = s.newestPlaceOf)
    (hrecords : t.records = s.records) : t.Coherent where
  toIndexed := h.toIndexed.congr (ids_congr hsessions) hplaceOf hnewest
  superseded := by
    rw [hsessions]
    simp only [generations_congr (ids_congr hsessions)]
    exact h.superseded
  recorded := by
    rw [hrecords, hsessions]
    exact h.recorded
  keyed := by
    rw [hrecords]
    exact h.keyed
  distinct := by
    rw [hsessions]
    exact h.distinct
  counted := by
    rw [hsessions]
    exact h.counted

/-- A record belongs to a generation that its connection has. -/
theorem generation_lt_of_mem (h : s.Coherent) (hkey : key ∈ s.records) :
    key.session.generation < s.generations key.session.connection := by
  obtain ⟨x, hx, hid, -⟩ := (h.recorded key).mp hkey
  rw [← hid]
  exact h.mem_ids_iff.mp (mem_ids_of_mem hx)

theorem mem_records_iff (h : s.Coherent) {x : Session} (hx : x ∈ s.sessions) (command : CommandId) :
    ⟨x.id, command⟩ ∈ s.records ↔ command ∈ x.commands := by
  rw [h.recorded]
  constructor
  · rintro ⟨y, hy, hid, hmem⟩
    exact h.eq_of_id_eq hy hx hid ▸ hmem
  · intro hmem
    exact ⟨x, hx, rfl, hmem⟩

/-- A session that is under way is that of the last generation of its connection. -/
theorem generations_eq_of_isLive (h : s.Coherent) {x : Session} (hx : x ∈ s.sessions)
    (hlive : x.isLive = true) : s.generations x.id.connection = x.id.generation + 1 := by
  have hstage : x.stage = .started := of_decide_eq_true hlive
  have hlt := h.mem_ids_iff.mp (mem_ids_of_mem hx)
  by_contra hne
  have hfinished := h.superseded x hx (by omega)
  rw [hstage] at hfinished
  cases hfinished

/-- A session that is under way is behind all others of its connection, which are not. -/
theorem generation_le_of_isLive (h : s.Coherent) {x y : Session} (hx : x ∈ s.sessions)
    (hlive : x.isLive = true) (hy : y ∈ s.sessions)
    (hconnection : y.id.connection = x.id.connection) :
    y.id.generation ≤ x.id.generation ∧ (y.isLive = true → y = x) := by
  have hlast := h.generations_eq_of_isLive hx hlive
  refine ⟨?_, fun hlive' ↦ h.eq_of_id_eq hy hx ?_⟩
  · have hlt := h.mem_ids_iff.mp (mem_ids_of_mem hy)
    rw [hconnection] at hlt
    omega
  · have hlast' := h.generations_eq_of_isLive hy hlive'
    rw [hconnection] at hlast'
    have hgeneration : y.id.generation = x.id.generation := by omega
    calc y.id = ⟨y.id.connection, y.id.generation⟩ := rfl
      _ = ⟨x.id.connection, x.id.generation⟩ := by rw [hconnection, hgeneration]
      _ = x.id := rfl

/-! ### Parts of updates -/

theorem advance (h : s.Coherent) : s.advance.Coherent := h.congr rfl rfl rfl rfl

/-- A session may change in all but its id and its commands, and in its stage if it is the newest of
its connection. -/
theorem updateSession (h : s.Coherent) (place : Nat) {f : Session → Session}
    (hid : ∀ x, (f x).id = x.id) (hcommands : ∀ x, (f x).commands = x.commands)
    (hcount : ∀ x, (f x).queryCount = x.queryCount)
    (hstage : ∀ x, s.sessions[place]? = some x →
      (f x).stage = x.stage ∨ s.generations x.id.connection = x.id.generation + 1) :
    (s.updateSession place f).Coherent where
  toIndexed := h.toIndexed.congr (ids_updateSession place hid) rfl rfl
  superseded y hy hlt := by
    rw [generations_congr (ids_updateSession place hid)] at hlt
    obtain ⟨x, hx, rfl | ⟨hplace, rfl⟩⟩ := exists_of_mem_updateSession hy
    · exact h.superseded y hx hlt
    · rw [hid] at hlt
      rcases hstage x hplace with hsame | hnewest
      · rw [hsame]
        exact h.superseded x hx hlt
      · omega
  recorded key := by
    rw [show (s.updateSession place f).records = s.records from rfl, h.recorded]
    constructor
    · rintro ⟨x, hx, hkey, hmem⟩
      rcases mem_updateSession place f hx with hx | ⟨-, hx⟩
      · exact ⟨x, hx, hkey, hmem⟩
      · exact ⟨f x, hx, (hid x).trans hkey, hcommands x ▸ hmem⟩
    · rintro ⟨y, hy, hkey, hmem⟩
      obtain ⟨x, hx, rfl | ⟨-, rfl⟩⟩ := exists_of_mem_updateSession hy
      · exact ⟨y, hx, hkey, hmem⟩
      · exact ⟨x, hx, (hid x).symm.trans hkey, hcommands x ▸ hmem⟩
  keyed := h.keyed
  distinct y hy := by
    obtain ⟨x, hx, rfl | ⟨-, rfl⟩⟩ := exists_of_mem_updateSession hy
    · exact h.distinct y hx
    · exact hcommands x ▸ h.distinct x hx
  counted y hy := by
    obtain ⟨x, hx, rfl | ⟨-, rfl⟩⟩ := exists_of_mem_updateSession hy
    · exact h.counted y hx
    · rw [hcount, hcommands]
      exact h.counted x hx

theorem touch (h : s.Coherent) (id : SessionId) : (s.touch id).Coherent := by
  unfold Store.touch
  split
  · exact h
  next place _ =>
    exact h.updateSession place (fun _ ↦ rfl) (fun _ ↦ rfl) (fun _ ↦ rfl) fun _ _ ↦ Or.inl rfl

/-- A session may be opened as the next generation of its connection when the one before is
finished. -/
theorem openSession (h : s.Coherent) (stage : SessionStage)
    (hnext : id.generation = s.generations id.connection)
    (hfinished : ∀ x ∈ s.sessions, x.id.connection = id.connection →
      s.generations id.connection = x.id.generation + 1 → x.stage = .finished) :
    (s.openSession id stage).Coherent where
  toIndexed := h.toIndexed.openSession stage hnext
  superseded y hy hlt := by
    rw [generations_openSession] at hlt
    rcases mem_openSession hy with hy | rfl
    · by_cases hsame : id.connection = y.id.connection
      · rw [if_pos hsame] at hlt
        by_cases hlast : s.generations id.connection = y.id.generation + 1
        · exact hfinished y hy hsame.symm hlast
        · exact h.superseded y hy (by rw [← hsame] at hlt ⊢; omega)
      · rw [if_neg hsame] at hlt
        exact h.superseded y hy hlt
    · simp only [if_pos, hnext] at hlt
      omega
  recorded key := by
    rw [show (s.openSession id stage).records = s.records from rfl, h.recorded]
    constructor
    · rintro ⟨x, hx, hkey, hmem⟩
      exact ⟨x, List.mem_append_left _ hx, hkey, hmem⟩
    · rintro ⟨x, hx, hkey, hmem⟩
      rcases mem_openSession hx with hx | rfl
      · exact ⟨x, hx, hkey, hmem⟩
      · cases hmem
  keyed := h.keyed
  distinct y hy := by
    rcases mem_openSession hy with hy | rfl
    · exact h.distinct y hy
    · exact List.nodup_nil
  counted y hy := by
    rcases mem_openSession hy with hy | rfl
    · exact h.counted y hy
    · rfl

/-- Records may change as long as there is one for each key there was one for, and it has that
key. -/
theorem ofRecords (h : s.Coherent) {records : Std.ExtTreeMap RecordKey RecordedQuery}
    (hmem : ∀ key, key ∈ records ↔ key ∈ s.records)
    (hkeyed : ∀ (key : RecordKey) (r : RecordedQuery), records[key]? = some r → r.key = key) :
    ({ s with records } : Store).Coherent where
  placed := h.placed
  numbered := h.numbered
  newest := h.newest
  superseded := h.superseded
  recorded key := (hmem key).trans (h.recorded key)
  keyed := hkeyed
  distinct := h.distinct
  counted := h.counted

theorem updateRecord (h : s.Coherent) (key : RecordKey) {f : RecordedQuery → RecordedQuery}
    (hkey : ∀ r, (f r).key = r.key) : (s.updateRecord key f).Coherent := by
  refine h.ofRecords (fun other ↦ Std.ExtTreeMap.mem_modify) fun other r hr ↦ ?_
  rw [Std.ExtTreeMap.getElem?_modify] at hr
  split at hr
  next heq =>
    obtain ⟨old, hold, rfl⟩ := Option.map_eq_some_iff.mp hr
    rw [hkey, ← Std.LawfulEqOrd.eq_of_compare heq]
    exact h.keyed key old hold
  next => exact h.keyed other r hr

theorem expandAll (h : s.Coherent) (expanded : Bool) : (s.expandAll expanded).Coherent := by
  refine h.ofRecords (fun other ↦ by simp) fun other r hr ↦ ?_
  rw [Std.ExtTreeMap.getElem?_map] at hr
  obtain ⟨old, hold, rfl⟩ := Option.map_eq_some_iff.mp hr
  exact h.keyed other old hold

end Coherent

theorem insert_eq_ok_iff (s : Store) (place : Nat) (record : RecordedQuery) (t : Store) :
    s.insert place record = .ok t ↔ record.key ∉ s.records ∧
      t = { s.updateSession place (·.issued record.query.command record.received) with
        records := s.records.insert record.key record } := by
  unfold Store.insert
  by_cases hkey : record.key ∈ s.records
  · simp [hkey]
  · simp [hkey, updateSession, eq_comm]

/-- A record without a predecessor may be inserted into the session it names. -/
theorem Coherent.insert (h : s.Coherent) {place : Nat} {x : Session} {record : RecordedQuery}
    (hplace : s.sessions[place]? = some x) (hid : x.id = record.session)
    (hinsert : s.insert place record = .ok t) : t.Coherent := by
  obtain ⟨hnew, ht⟩ := (insert_eq_ok_iff ..).mp hinsert
  have hx : x ∈ s.sessions := List.mem_of_getElem? hplace
  have hcommand : record.query.command ∉ x.commands := fun hmem ↦
    hnew ((h.recorded _).mpr ⟨x, hx, hid, hmem⟩)
  have hsessions : t.sessions =
      (s.updateSession place (·.issued record.query.command record.received)).sessions := by rw [ht]
  have hrecords : t.records = s.records.insert record.key record := by rw [ht]
  have hids : t.ids = s.ids :=
    (ids_congr hsessions).trans (ids_updateSession place fun _ ↦ rfl)
  exact
  { toIndexed := h.toIndexed.congr hids (by rw [ht]; rfl) (by rw [ht]; rfl)
    superseded := fun y hy hlt ↦ by
      rw [hsessions] at hy
      rw [generations_congr hids] at hlt
      obtain ⟨z, hz, rfl | ⟨-, rfl⟩⟩ := exists_of_mem_updateSession hy
      · exact h.superseded y hz hlt
      · exact h.superseded z hz hlt
    recorded := fun key ↦ by
      rw [hsessions, hrecords, Std.ExtTreeMap.mem_insert, Std.compare_eq_iff_eq, h.recorded]
      constructor
      · rintro (rfl | ⟨z, hz, hkey, hmem⟩)
        · exact ⟨_, mem_updateSession_of_place _ hplace, hid,
            List.mem_append_right _ (List.mem_singleton_self _)⟩
        · rcases mem_updateSession place
            (·.issued record.query.command record.received) hz with hz | ⟨-, hz⟩
          · exact ⟨z, hz, hkey, hmem⟩
          · exact ⟨_, hz, hkey, List.mem_append_left _ hmem⟩
      · rintro ⟨y, hy, hkey, hmem⟩
        obtain ⟨z, hz, rfl | ⟨hatPlace, rfl⟩⟩ := exists_of_mem_updateSession hy
        · exact Or.inr ⟨y, hz, hkey, hmem⟩
        · rcases List.mem_append.mp hmem with hold | hlast
          · exact Or.inr ⟨z, hz, hkey, hold⟩
          · rw [hplace] at hatPlace
            cases hatPlace
            left
            rw [RecordedQuery.key, ← hid, ← List.mem_singleton.mp hlast]
            exact congrArg (RecordKey.mk · key.command) hkey
    keyed := fun key r hr ↦ by
      rw [hrecords, Std.ExtTreeMap.getElem?_insert] at hr
      split at hr
      next heq =>
        cases hr
        exact Std.LawfulEqOrd.eq_of_compare heq
      next => exact h.keyed key r hr
    distinct := fun y hy ↦ by
      rw [hsessions] at hy
      obtain ⟨z, hz, rfl | ⟨hatPlace, rfl⟩⟩ := exists_of_mem_updateSession hy
      · exact h.distinct y hz
      · rw [hplace] at hatPlace
        cases hatPlace
        show (x.commands ++ [record.query.command]).Nodup
        rw [← List.concat_eq_append]
        exact (h.distinct x hx).concat hcommand
    counted := fun y hy ↦ by
      rw [hsessions] at hy
      obtain ⟨z, hz, rfl | ⟨-, rfl⟩⟩ := exists_of_mem_updateSession hy
      · exact h.counted y hz
      · simp [Session.issued, h.counted z hz] }

end QueryWatch.Store

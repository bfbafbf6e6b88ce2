import QueryWatch.Proofs.Store.Chronology

/-!
Generations and the numbers of events. A record is only ever added to the newest generation of its
connection, with the number of the latest event (`Step.received?_cases`). So among the records of a
connection those of a later generation have higher numbers, along every run (`Successive`,
`successive_run`). The record that is found for a command is that of the latest generation
(`Coherent.newestRecord?_eq_some_iff`), so it is also the one that was received last
(`Successive.lt_of_newestRecord?`).
-/

set_option autoImplicit false

namespace QueryWatch.Store

variable {s t : Store} {e : Event} {connection : ConnectionId} {command : CommandId}
  {r : RecordedQuery}

/-- The records of a later generation of a connection are from later events, and none is from an
event that is yet to come. -/
structure Successive (s : Store) : Prop where
  le_latest : ∀ key number, s.received? key = some number → number ≤ s.lastNumber
  rising : ∀ older newer : RecordKey, older.session.connection = newer.session.connection →
    older.session.generation < newer.session.generation → ∀ first second,
      s.received? older = some first → s.received? newer = some second → first < second

theorem successive_empty (settings : StoreSettings) : (empty settings).Successive := by
  have hnone : ∀ key, (empty settings).received? key = none := fun _ ↦ rfl
  constructor
  · intro key number hnumber
    rw [hnone] at hnumber
    cases hnumber
  · intro older newer _ _ first second hfirst
    rw [hnone] at hfirst
    cases hfirst

/-! ### Every step -/

/-- Every event has the next number. -/
theorem Step.lastNumber_eq (h : s.Step e t) : t.lastNumber = s.lastNumber + 1 := by
  cases h with
  | staged hnewest hstage => rfl
  | opened hvacant hstart => rfl
  | repeated hduplicate => rfl
  | recorded hnew hdestination hconnection hkey =>
    rcases hdestination.cases with ⟨rfl, -⟩ | ⟨-, rfl, -⟩ <;> rfl
  | resolved htarget =>
    rw [touch_eq]
    rfl
  | buffered htarget =>
    rw [buffer_eq]
    rfl

/-- An event adds no record, or one in the newest generation of its connection, with its number. -/
theorem Step.received?_cases (h : s.Step e t) :
    (∀ key, t.received? key = s.received? key) ∨
      ∃ latest : RecordKey,
        t.generations latest.session.connection = latest.session.generation + 1 ∧
        ∀ key, t.received? key = if latest = key then some t.lastNumber else s.received? key := by
  cases h with
  | staged hnewest hstage => exact Or.inl fun _ ↦ rfl
  | opened hvacant hstart => exact Or.inl fun _ ↦ rfl
  | repeated hduplicate => exact Or.inl fun _ ↦ rfl
  | @recorded query place x u hnew hdestination hconnection hkey =>
    obtain ⟨-, -, hgenerations⟩ :=
      hdestination.coherent.newestPlaced?_eq_some_iff.mp hdestination.found
    refine Or.inr ⟨⟨⟨query.connection, x.id.generation⟩, query.command⟩, ?_, fun key ↦ ?_⟩
    · rw [generations_congr (ids_withQuery ..)]
      exact hgenerations
    · have hold : u.received? key = s.received? key := by
        rw [received?, record?, hdestination.records_eq]
        rfl
      rw [received?_withQuery, hold]
      rfl
  | @resolved result key htarget =>
    refine Or.inl fun other ↦ ?_
    rw [touch_eq]
    exact received?_resolve key other result
  | buffered htarget =>
    refine Or.inl fun other ↦ ?_
    rw [buffer_eq]
    rfl

namespace Successive

/-- The order is that of the numbers of the records. -/
theorem congr (h : s.Successive) (hnumber : s.lastNumber ≤ t.lastNumber)
    (hreceived : ∀ key, t.received? key = s.received? key) : t.Successive where
  le_latest key number hkey := by
    rw [hreceived] at hkey
    exact Nat.le_trans (h.le_latest key number hkey) hnumber
  rising older newer hconnection hgeneration first second hfirst hsecond := by
    rw [hreceived] at hfirst hsecond
    exact h.rising older newer hconnection hgeneration first second hfirst hsecond

theorem step (h : s.Successive) (hstep : s.Step e t) (ht : t.Coherent) : t.Successive := by
  have hnumber := hstep.lastNumber_eq
  rcases hstep.received?_cases with hsame | ⟨latest, hnewest, hreceived⟩
  · exact h.congr (by omega) hsame
  have hbound : ∀ key number, t.received? key = some number →
      key.session.generation < t.generations key.session.connection := by
    intro key number hkey
    obtain ⟨r, hr, -⟩ := Option.map_eq_some_iff.mp hkey
    exact ht.generation_lt_of_mem (mem_records_iff_record?.mpr ⟨r, hr⟩)
  constructor
  · intro key number hkey
    rw [hreceived] at hkey
    split at hkey
    · exact Nat.le_of_eq (Option.some.inj hkey).symm
    · have hle := h.le_latest key number hkey
      omega
  · intro older newer hconnection hgeneration first second hfirst hsecond
    have hlast := hbound newer second hsecond
    rw [hreceived] at hfirst hsecond
    by_cases holder : latest = older
    · -- The record that was added is in the newest generation, so none is newer.
      subst holder
      rw [← hconnection] at hlast
      omega
    · rw [if_neg holder] at hfirst
      have hle := h.le_latest older first hfirst
      by_cases hnewer : latest = newer
      · rw [if_pos hnewer] at hsecond
        have heq := Option.some.inj hsecond
        omega
      · rw [if_neg hnewer] at hsecond
        exact h.rising older newer hconnection hgeneration first second hfirst hsecond

theorem perform (h : s.Successive) (hs : s.Coherent) (operation : Operation) :
    (s.perform operation).Successive := by
  rcases operation.cases_isShowing with hshowing | rfl | ⟨e, rfl⟩
  · have halike := perform_of_isShowing (s := s) hshowing
    exact h.congr (Nat.le_of_eq (by rw [halike.rest])) halike.received?_eq
  · exact (successive_empty s.settings).congr (Nat.zero_le _) fun _ ↦ rfl
  · exact h.step (hs.step_receive e) (hs.receive e)

theorem run (h : s.Successive) (hs : s.Coherent) (operations : List Operation) :
    (s.run operations).Successive := by
  induction operations generalizing s with
  | nil => exact h
  | cons operation operations ih => exact ih (h.perform hs operation) (hs.perform operation)

end Successive

/-- In every store that a run reaches from an empty one, the records of later generations are from
later events. -/
theorem successive_run (settings : StoreSettings) (operations : List Operation) :
    ((empty settings).run operations).Successive :=
  (successive_empty settings).run (coherent_empty settings) operations

/-! ### The records of a command -/

/-- A record is one of a command, in some generation of a connection. -/
def IsRecordOf (s : Store) (connection : ConnectionId) (command : CommandId) (r : RecordedQuery) :
    Prop :=
  ∃ generation, s.record? ⟨⟨connection, generation⟩, command⟩ = some r

theorem Coherent.isRecordOf_iff (hs : s.Coherent) : s.IsRecordOf connection command r ↔
    s.record? ⟨⟨connection, r.generation⟩, command⟩ = some r := by
  constructor
  · rintro ⟨generation, hr⟩
    have hkey := hs.keyed _ r hr
    rwa [show r.generation = generation from congrArg (·.session.generation) hkey]
  · intro hr
    exact ⟨r.generation, hr⟩

/-- The record that is found for a command is that of the latest generation. -/
theorem Coherent.newestRecord?_eq_some_iff (hs : s.Coherent) :
    s.newestRecord? connection command = some r ↔ s.IsRecordOf connection command r ∧
      ∀ other, s.IsRecordOf connection command other → other.generation ≤ r.generation := by
  rw [newestRecord?, Option.bind_eq_some_iff]
  constructor
  · rintro ⟨key, hkey, hr⟩
    obtain ⟨-, rfl, rfl, hlast⟩ := hs.newestKey?_eq_some_iff.mp hkey
    have hgeneration : r.generation = key.session.generation :=
      congrArg (·.session.generation) (hs.keyed key r hr)
    refine ⟨⟨key.session.generation, hr⟩, fun other hother ↦ ?_⟩
    by_contra hnot
    exact hlast other.generation (by omega)
      (mem_records_iff_record?.mpr ⟨other, hs.isRecordOf_iff.mp hother⟩)
  · rintro ⟨hr, hlast⟩
    have hrecord := hs.isRecordOf_iff.mp hr
    refine ⟨_, hs.newestKey?_eq_some_iff.mpr ⟨mem_records_iff_record?.mpr ⟨r, hrecord⟩, rfl, rfl,
      fun generation hlt hmem ↦ ?_⟩, hrecord⟩
    obtain ⟨other, hother⟩ := mem_records_iff_record?.mp hmem
    have hle := hlast other ⟨generation, hother⟩
    have hgeneration : other.generation = generation :=
      congrArg (·.session.generation) (hs.keyed _ other hother)
    dsimp only at hlt
    omega

/-- A record is found for a command if it has one. -/
theorem Coherent.exists_newestRecord? (hs : s.Coherent)
    (h : s.IsRecordOf connection command r) :
    ∃ newest, s.newestRecord? connection command = some newest := by
  have hrecord := hs.isRecordOf_iff.mp h
  cases hkey : s.newestKey? connection command with
  | none =>
    exact absurd (mem_records_iff_record?.mpr ⟨r, hrecord⟩) (hs.newestKey?_eq_none_iff.mp hkey _)
  | some key =>
    obtain ⟨newest, hnewest⟩ := mem_records_iff_record?.mp (hs.newestKey?_eq_some_iff.mp hkey).1
    refine ⟨newest, ?_⟩
    rw [newestRecord?, hkey]
    exact hnewest

end QueryWatch.Store

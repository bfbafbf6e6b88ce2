import QueryWatch.Proofs.Store.Run

/-!
Sessions of earlier generations. `Superseded s id` says that the connection of a session has a newer
one. Whatever event comes, such a session keeps all but the number of the event that last concerned
it (`Coherent.session?_of_superseded`), and its records are kept as they are, except that a pending
one may be resolved by its result (`Coherent.record_of_superseded`). So the records of a superseded
session change at most once (`Coherent.changes_le`), which `superseded_history` says for every store that a
run reaches.
-/

set_option autoImplicit false

namespace QueryWatch.Store

variable {s t : Store} {e : Event} {id : SessionId} {key : RecordKey}

/-- The connection of a session has a newer one. -/
def Superseded (s : Store) (id : SessionId) : Prop :=
  ∃ newer ∈ s.sessions, newer.id.connection = id.connection ∧
    id.generation < newer.id.generation

theorem Indexed.superseded_iff (h : s.Indexed) :
    s.Superseded id ↔ id.generation + 1 < s.generations id.connection := by
  constructor
  · rintro ⟨newer, hnewer, hconnection, hlt⟩
    have hbound := h.mem_ids_iff.mp (mem_ids_of_mem hnewer)
    rw [hconnection] at hbound
    omega
  · intro hlt
    have hmem : (⟨id.connection, id.generation + 1⟩ : SessionId) ∈ s.ids := h.mem_ids_iff.mpr hlt
    obtain ⟨newer, hnewer, hid⟩ := List.mem_map.mp hmem
    refine ⟨newer, hnewer, ?_, ?_⟩
    · rw [hid]
    · rw [hid]
      exact Nat.lt_succ_self _

/-! ### One event -/

/-- A superseded session keeps all but the number of the event that last concerned it. -/
theorem Coherent.session?_of_superseded (hs : s.Coherent) (h : s.Step e t) (ht : t.Coherent)
    {x : Session} (hx : x ∈ s.sessions) (hsuperseded : s.Superseded x.id) :
    ∃ y, t.session? x.id = some y ∧ y.stage = .finished ∧
      y.apartFromLastSeen = x.apartFromLastSeen := by
  have hlt := hs.superseded_iff.mp hsuperseded
  obtain ⟨place, hplace⟩ := List.mem_iff_getElem?.mp hx
  obtain ⟨y, hy, hsame | hnewest⟩ := hs.session_cases h hplace
  · have hid : y.apartFromLastSeen.id = x.apartFromLastSeen.id := by rw [hsame]
    have hstage : y.apartFromLastSeen.stage = x.apartFromLastSeen.stage := by rw [hsame]
    refine ⟨y, ht.session?_eq_some_iff.mpr ⟨List.mem_of_getElem? hy, hid⟩, ?_, hsame⟩
    exact hstage.trans (hs.superseded x hx hlt)
  · omega

/-- A record of a superseded session stays as it is, or is pending and gets its result. -/
theorem Coherent.record_of_superseded (hs : s.Coherent) (h : s.Step e t)
    (hsuperseded : s.Superseded key.session) {r : RecordedQuery} (hr : s.record? key = some r) :
    t.record? key = some r ∨ r.resolution = none ∧ ∃ result, e = .result result ∧
      result.connection = key.session.connection ∧ result.command = key.command ∧
      (∀ generation, key.session.generation < generation →
        ⟨⟨key.session.connection, generation⟩, key.command⟩ ∉ s.records) ∧
      t.record? key = some { r with resolution := some result.resolution } := by
  have hlt := hs.superseded_iff.mp hsuperseded
  rcases h.record_cases hr with hsame | ⟨result, rfl, htarget, hresolved⟩
  · exact Or.inl hsame
  · obtain ⟨hkey, hlatest | hpending⟩ := hs.target?_eq_some_iff.mp htarget
    all_goals obtain ⟨-, hconnection, hcommand, hlast⟩ := hs.newestKey?_eq_some_iff.mp hkey
    · rw [hconnection] at hlt
      omega
    · obtain ⟨old, hold, hunresolved⟩ := isPending_iff.mp hpending
      rw [hr] at hold
      cases hold
      rw [← hconnection, ← hcommand] at hlast
      exact Or.inr ⟨hunresolved, result, rfl, hconnection.symm, hcommand.symm, hlast, hresolved⟩

/-! ### Runs -/

/-- How often what is recorded under a key changes in a run, apart from how it is shown. -/
def changes (s : Store) (key : RecordKey) : List Operation → Nat
  | [] => 0
  | operation :: operations =>
    (if (s.perform operation).content? key = s.content? key then 0 else 1) +
      (s.perform operation).changes key operations

theorem Coherent.superseded_perform (hs : s.Coherent) (hsuperseded : s.Superseded id)
    {operation : Operation} (hreset : operation ≠ .reset) :
    (s.perform operation).Superseded id := by
  have hlt := hs.superseded_iff.mp hsuperseded
  have hle : s.generations id.connection ≤ (s.perform operation).generations id.connection := by
    rcases operation.cases_isShowing with hshowing | rfl | ⟨e, rfl⟩
    · rw [(perform_of_isShowing hshowing).rest]
      exact Nat.le_refl _
    · exact absurd rfl hreset
    · exact (hs.step_receive e).generations_le id.connection
  exact (hs.perform operation).superseded_iff.mpr (Nat.lt_of_lt_of_le hlt hle)

/-- What is recorded in a superseded session changes only when a pending record is resolved. -/
theorem Coherent.content?_perform (hs : s.Coherent) (hsuperseded : s.Superseded key.session)
    {operation : Operation} (hreset : operation ≠ .reset) :
    (s.perform operation).content? key = s.content? key ∨
      s.isPending key = true ∧ (s.perform operation).isPending key = false := by
  rcases operation.cases_isShowing with hshowing | rfl | ⟨e, rfl⟩
  · exact Or.inl ((perform_of_isShowing hshowing).content key)
  · exact absurd rfl hreset
  · have hstep := hs.step_receive e
    show (s.receive e).content? key = _ ∨ _ ∧ (s.receive e).isPending key = false
    cases hr : s.record? key with
    | none =>
      cases hnew : (s.receive e).record? key with
      | none => exact Or.inl (by rw [content?, content?, hr, hnew])
      | some r =>
        have hnot : key ∉ s.records := by
          rw [mem_records_iff_record?, hr]
          rintro ⟨_, heq⟩
          cases heq
        obtain ⟨query, -, hconnection, -, hle⟩ :=
          hstep.issued_of_not_mem hnot (mem_records_iff_record?.mpr ⟨r, hnew⟩)
        have hlt := hs.superseded_iff.mp hsuperseded
        rw [hconnection] at hlt
        omega
    | some r =>
      rcases hs.record_of_superseded hstep hsuperseded hr with
        hsame | ⟨hunresolved, result, -, -, -, -, hresolved⟩
      · exact Or.inl (by rw [content?, content?, hr, hsame])
      · refine Or.inr ⟨isPending_iff.mpr ⟨r, hr, hunresolved⟩, ?_⟩
        rw [isPending, hresolved]
        rfl

/-- The record of a command in a superseded session changes at most once: when it is resolved. -/
theorem Coherent.changes_le (hs : s.Coherent) (hsuperseded : s.Superseded key.session)
    {operations : List Operation} (hreset : .reset ∉ operations) :
    s.changes key operations ≤ if s.isPending key then 1 else 0 := by
  -- Whether the record is pending is read off what may change, so a step that changes nothing keeps
  -- the bound, and one that resolves the record uses it up.
  induction operations generalizing s with
  | nil => exact Nat.zero_le _
  | cons operation operations ih =>
    have hne : operation ≠ .reset := fun heq ↦ hreset (heq ▸ List.mem_cons_self)
    have hrun := ih (hs.perform operation) (hs.superseded_perform hsuperseded hne)
      fun hmem ↦ hreset (List.mem_cons_of_mem operation hmem)
    rw [changes]
    rcases hs.content?_perform hsuperseded hne with hsame | ⟨hpending, hresolved⟩
    · rw [if_pos hsame, Nat.zero_add, ← isPending_eq_of_content? hsame]
      exact hrun
    · rw [hresolved, if_neg Bool.false_ne_true] at hrun
      rw [if_pos hpending, Nat.le_zero.mp hrun]
      split <;> omega

/-- In every store that a run reaches, a superseded session stays as it is whatever event comes: it
is finished, with the same commands. So do its records, except that a pending one may be resolved by
the result of its command, if no newer generation has that command. Until the next reset, each of
its records changes at most once, apart from how it is shown. -/
theorem superseded_history (settings : StoreSettings) (operations : List Operation) :
    let s := (empty settings).run operations
    (∀ (e : Event) (x : Session), x ∈ s.sessions → s.Superseded x.id →
      (∃ y, (s.receive e).session? x.id = some y ∧ y.stage = .finished ∧
        y.queryCount = x.queryCount ∧ y.firstSeen = x.firstSeen ∧ y.commands = x.commands) ∧
      ∀ (key : RecordKey) (r : RecordedQuery), key.session = x.id → s.record? key = some r →
        (s.receive e).record? key = some r ∨
          r.resolution = none ∧ ∃ result, e = .result result ∧
            result.connection = key.session.connection ∧ result.command = key.command ∧
            (∀ generation, key.session.generation < generation →
              s.record? ⟨⟨key.session.connection, generation⟩, key.command⟩ = none) ∧
            (s.receive e).record? key =
              some { r with resolution := some result.resolution }) ∧
    ∀ (key : RecordKey) (later : List Operation), s.Superseded key.session → .reset ∉ later →
      s.changes key later ≤ 1 := by
  intro s
  have hs : s.Coherent := (coherent_empty settings).run operations
  refine ⟨fun e x hx hsuperseded ↦ ⟨?_, fun key r hkey hr ↦ ?_⟩,
    fun key later hsuperseded hreset ↦ ?_⟩
  · obtain ⟨y, hy, hstage, hsame⟩ :=
      hs.session?_of_superseded (hs.step_receive e) (hs.receive e) hx hsuperseded
    obtain ⟨-, -, hcommands, hcount, hfirst, -⟩ := Session.mk.injEq .. ▸ hsame
    exact ⟨y, hy, hstage, hcount, hfirst, hcommands⟩
  · rw [← hkey] at hsuperseded
    rcases hs.record_of_superseded (hs.step_receive e) hsuperseded hr with
      hsame | ⟨hunresolved, result, he, hconnection, hcommand, hlast, hresolved⟩
    · exact Or.inl hsame
    · refine Or.inr ⟨hunresolved, result, he, hconnection, hcommand, fun generation hlt ↦ ?_,
        hresolved⟩
      have hnot := hlast generation hlt
      rw [mem_records_iff_record?] at hnot
      exact Option.eq_none_iff_forall_ne_some.mpr fun newer hnewer ↦ hnot ⟨newer, hnewer⟩
  · refine Nat.le_trans (hs.changes_le hsuperseded hreset) ?_
    split <;> omega

/-- A connection was reused before the result of a query of its first session came: the record is
resolved by it, and no second result changes it. -/
theorem superseded_history_reused :
    let s := (empty {}).run [.event (.issued ⟨"5", 1, none, "SELECT 1", [], true⟩),
      .event (.session "5" .finished), .event (.session "5" .started)]
    let later : List Operation := [.event (.result ⟨"5", 1, .ok, none, 40⟩),
      .event (.result ⟨"5", 1, .error, some "late", 50⟩)]
    s.Superseded ⟨"5", 0⟩ ∧ s.changes ⟨⟨"5", 0⟩, 1⟩ later = 1 ∧
      s.changes ⟨⟨"5", 0⟩, 1⟩ later ≤ 1 := by
  intro s later
  have hsuperseded : s.Superseded ⟨"5", 0⟩ := by
    unfold Superseded
    decide
  exact ⟨hsuperseded, by decide, (superseded_history {} _).2 ⟨⟨"5", 0⟩, 1⟩ later hsuperseded
    (by decide)⟩

end QueryWatch.Store

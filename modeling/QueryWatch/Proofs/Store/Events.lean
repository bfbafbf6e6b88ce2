import QueryWatch.Proofs.Store.Newest

/-!
What each event does to a coherent store, in one statement for each kind of event. An event on a
connection goes to its newest session, or the next session is opened (`openNext`): an issued query
does that unless the newest session is under way (`sessionForQuery_cases`), a stage only where it
starts a connection that has no session or a finished one (`applyStage_cases`). A query that is no
duplicate is recorded, with the result that waited for it (`applyIssued_of_not_isDuplicate`); a
result resolves its target or waits (`applyResult_of_target?`, `applyResult_of_target?_eq_none`).
From these `Coherent.apply` follows: every event keeps a store coherent, and no event fails.
-/

set_option autoImplicit false

namespace QueryWatch.Store

variable {s t : Store} {connection : ConnectionId} {command : CommandId} {key : RecordKey}

/-! ### The next session of a connection -/

/-- The id of the session that would be opened next on a connection. -/
def nextId (s : Store) (connection : ConnectionId) : SessionId :=
  ⟨connection, s.generations connection⟩

/-- What is said of the next session when it is opened. -/
def opening (s : Store) (connection : ConnectionId) : SessionEffect :=
  if s.generations connection = 0 then .created (s.nextId connection)
  else .reused (s.nextId connection)

/-- Opens the next session of a connection. -/
def openNext (s : Store) (connection : ConnectionId) (stage : SessionStage) : Store :=
  { s.openSession (s.nextId connection) stage with
    counts.sessionReuses :=
      s.counts.sessionReuses + if s.generations connection = 0 then 0 else 1 }

/-- No session of a connection is under way. -/
def Vacant (s : Store) (connection : ConnectionId) : Prop :=
  ∀ place x, s.newestPlaced? connection = some (place, x) → x.stage = .finished

theorem Indexed.openSession_of_none (h : s.Indexed) (hnone : s.newestPlaced? connection = none)
    (stage : SessionStage) :
    s.openSession ⟨connection, 0⟩ stage = s.openNext connection stage ∧
      SessionEffect.created ⟨connection, 0⟩ = s.opening connection := by
  have hzero := h.newestPlaced?_eq_none_iff.mp hnone
  simp [openNext, opening, nextId, hzero, Store.openSession]

theorem Indexed.reopen_eq (h : s.Indexed) {place : Nat} {x : Session}
    (hx : s.newestPlaced? connection = some (place, x)) :
    s.reopen x = (s.nextId connection, s.openNext connection .started) ∧
      SessionEffect.reused (s.nextId connection) = s.opening connection := by
  obtain ⟨-, rfl, hgenerations⟩ := h.newestPlaced?_eq_some_iff.mp hx
  simp [reopen, openNext, opening, nextId, hgenerations, Store.openSession]

/-- A new query goes to the newest session of its connection if that is under way, and to the next
one otherwise. -/
theorem Indexed.sessionForQuery_cases (h : s.Indexed) (connection : ConnectionId) :
    (∃ place x, s.newestPlaced? connection = some (place, x) ∧ x.stage = .started ∧
      s.sessionForQuery connection = (place, x.id, .unchanged, s)) ∨
    s.Vacant connection ∧ s.sessionForQuery connection =
      (s.sessions.length, s.nextId connection, s.opening connection,
        s.openNext connection .started) := by
  unfold sessionForQuery
  cases hnewest : s.newestPlaced? connection with
  | none =>
    obtain ⟨hstore, heffect⟩ := h.openSession_of_none hnewest .started
    refine Or.inr ⟨fun place x hsome ↦ ?_, ?_⟩
    · rw [hnewest] at hsome
      cases hsome
    · simp only [hstore, heffect, nextId, h.newestPlaced?_eq_none_iff.mp hnewest]
  | some found =>
    obtain ⟨place, x⟩ := found
    cases hstage : x.stage with
    | started => exact Or.inl ⟨place, x, rfl, hstage, by simp only [hstage]⟩
    | finished =>
      obtain ⟨hstore, heffect⟩ := h.reopen_eq hnewest
      refine Or.inr ⟨fun place y hsome ↦ ?_, ?_⟩
      · rw [hnewest] at hsome
        cases hsome
        exact hstage
      · simp only [hstage, hstore, heffect]

/-- A stage is that of the newest session of its connection, unless it starts a connection whose
newest session is finished or is the first that is heard of it: then it is that of the next one. -/
theorem Indexed.applyStage_cases (h : s.Indexed) (connection : ConnectionId)
    (stage : SessionStage) :
    (∃ place x, s.newestPlaced? connection = some (place, x) ∧
      (x.stage = .finished → stage = .finished) ∧
      s.applyStage connection stage = (.unchanged, s.advance.updateSession place fun x ↦
        { x with stage, lastSeen := s.lastNumber + 1 })) ∨
    s.Vacant connection ∧ (s.generations connection ≠ 0 → stage = .started) ∧
      s.applyStage connection stage =
        (s.opening connection, s.advance.openNext connection stage) := by
  unfold applyStage
  have hadvance : s.advance.newestPlaced? connection = s.newestPlaced? connection := rfl
  have h' : s.advance.Indexed := h.congr rfl rfl rfl
  cases hnewest : s.newestPlaced? connection with
  | none =>
    obtain ⟨hstore, heffect⟩ := h'.openSession_of_none (hadvance.trans hnewest) stage
    refine Or.inr ⟨fun place x hsome ↦ ?_, fun hpos ↦ ?_, ?_⟩
    · rw [hnewest] at hsome
      cases hsome
    · exact absurd (h.newestPlaced?_eq_none_iff.mp hnewest) hpos
    · simp only [hadvance, hnewest, hstore, heffect]
      rfl
  | some found =>
    obtain ⟨place, x⟩ := found
    simp only [hadvance, hnewest]
    cases hstage : x.stage with
    | started => exact Or.inl ⟨place, x, rfl, fun hne ↦ absurd (hstage.symm.trans hne) nofun, rfl⟩
    | finished =>
      cases stage with
      | finished => exact Or.inl ⟨place, x, rfl, fun _ ↦ rfl, rfl⟩
      | started =>
        obtain ⟨hstore, heffect⟩ := h'.reopen_eq (hadvance.trans hnewest)
        refine Or.inr ⟨fun place y hsome ↦ ?_, fun _ ↦ rfl, ?_⟩
        · rw [hnewest] at hsome
          cases hsome
          exact hstage
        · simp only [hstore, heffect]
          rfl

/-! ### Opening and updating sessions -/

theorem Coherent.openNext (h : s.Coherent) (hvacant : s.Vacant connection) (stage : SessionStage) :
    (s.openNext connection stage).Coherent := by
  have hopen : (s.openSession (s.nextId connection) stage).Coherent := by
    refine h.openSession stage rfl fun x hx hconnection hgenerations ↦ ?_
    obtain ⟨place, hplace⟩ := List.mem_iff_getElem?.mp hx
    exact hvacant place x (h.newestPlaced?_eq_some_iff.mpr ⟨hplace, hconnection, hgenerations⟩)
  exact hopen.congr rfl rfl rfl rfl

theorem generations_openNext (s : Store) (connection : ConnectionId) (stage : SessionStage)
    (other : ConnectionId) : (s.openNext connection stage).generations other =
      if connection = other then s.generations other + 1 else s.generations other :=
  generations_openSession s (s.nextId connection) stage other

theorem openNext_getElem? (s : Store) (connection : ConnectionId) (stage : SessionStage) :
    (s.openNext connection stage).sessions[s.sessions.length]? =
      some ⟨s.nextId connection, stage, [], 0, s.lastNumber, s.lastNumber⟩ :=
  List.getElem?_concat_length

theorem Coherent.applyStage (h : s.Coherent) (connection : ConnectionId) (stage : SessionStage) :
    (s.applyStage connection stage).2.Coherent := by
  have hadvance := h.advance
  rcases h.applyStage_cases connection stage with
    ⟨place, x, hnewest, -, heq⟩ | ⟨hvacant, -, heq⟩
  · rw [heq]
    obtain ⟨hplace, rfl, hgenerations⟩ := h.newestPlaced?_eq_some_iff.mp hnewest
    refine hadvance.updateSession place (fun _ ↦ rfl) (fun _ ↦ rfl) (fun _ ↦ rfl) fun y hy ↦ ?_
    rw [show s.advance.sessions = s.sessions from rfl, hplace] at hy
    cases hy
    exact Or.inr hgenerations
  · rw [heq]
    exact hadvance.openNext hvacant stage

/-! ### A query is issued -/

/-- Where a query that is no duplicate goes: in `t`, which differs from `s` at most by the next
session, the session `x` at a place is the newest of its connection and under way. -/
structure Destination (s : Store) (connection : ConnectionId) (place : Nat) (x : Session)
    (t : Store) : Prop where
  coherent : t.Coherent
  found : t.newestPlaced? connection = some (place, x)
  underWay : x.stage = .started
  cases : t = s ∧ s.newestPlaced? connection = some (place, x) ∨
    s.Vacant connection ∧ t = s.openNext connection .started ∧
      x = ⟨s.nextId connection, .started, [], 0, s.lastNumber, s.lastNumber⟩

theorem Coherent.exists_destination (h : s.Coherent) (connection : ConnectionId) :
    ∃ place x change t, s.sessionForQuery connection = (place, x.id, change, t) ∧
      s.Destination connection place x t := by
  rcases h.sessionForQuery_cases connection with
    ⟨place, x, hnewest, hstage, heq⟩ | ⟨hvacant, heq⟩
  · exact ⟨place, x, .unchanged, s, heq, h, hnewest, hstage, Or.inl ⟨rfl, hnewest⟩⟩
  · have hopen := h.openNext hvacant .started
    refine ⟨_, ⟨s.nextId connection, .started, [], 0, s.lastNumber, s.lastNumber⟩, _, _, heq,
      hopen, ?_, rfl, Or.inr ⟨hvacant, rfl, rfl⟩⟩
    refine hopen.newestPlaced?_eq_some_iff.mpr ⟨openNext_getElem? s connection .started, rfl, ?_⟩
    rw [generations_openNext, if_pos rfl]
    rfl

namespace Destination

variable {place : Nat} {x : Session}

theorem records_eq (h : s.Destination connection place x t) : t.records = s.records := by
  rcases h.cases with ⟨rfl, -⟩ | ⟨-, rfl, -⟩ <;> rfl

theorem orphans_eq (h : s.Destination connection place x t) : t.orphans = s.orphans := by
  rcases h.cases with ⟨rfl, -⟩ | ⟨-, rfl, -⟩ <;> rfl

theorem settings_eq (h : s.Destination connection place x t) : t.settings = s.settings := by
  rcases h.cases with ⟨rfl, -⟩ | ⟨-, rfl, -⟩ <;> rfl

end Destination

theorem isDuplicate_iff (s : Store) (query : Query) :
    s.isDuplicate query = true ↔
      ∃ x, s.newestSession? query.connection = some x ∧ ⟨x.id, query.command⟩ ∈ s.records := by
  unfold isDuplicate
  cases hnewest : s.newestSession? query.connection with
  | none => simp
  | some x => simp

/-- The command of a query that is no duplicate is new to the session it goes to. -/
theorem Destination.key_not_mem {place : Nat} {x : Session} {query : Query}
    (hs : s.Coherent) (h : s.Destination query.connection place x t)
    (hnew : s.isDuplicate query = false) : ⟨x.id, query.command⟩ ∉ t.records := by
  rcases h.cases with ⟨rfl, hnewest⟩ | ⟨-, -, rfl⟩
  · intro hmem
    have hdup := (t.isDuplicate_iff query).mpr ⟨x, by rw [newestSession?, hnewest]; rfl, hmem⟩
    rw [hnew] at hdup
    cases hdup
  · rw [h.records_eq]
    intro hmem
    have hlt := hs.generation_lt_of_mem hmem
    simp only [nextId] at hlt
    omega

theorem otherOrphans_of_orphan?_eq_none (hnone : s.orphan? connection command = none) :
    s.otherOrphans connection command = s.orphans :=
  List.eraseP_of_forall_not fun o ho ↦ List.find?_eq_none.mp hnone o ho

theorem modify_insert {records : Std.ExtTreeMap RecordKey RecordedQuery} {r : RecordedQuery}
    (f : RecordedQuery → RecordedQuery) :
    (records.insert key r).modify key f = records.insert key (f r) := by
  apply Std.ExtTreeMap.ext_getElem?
  intro other
  simp only [Std.ExtTreeMap.getElem?_modify, Std.ExtTreeMap.getElem?_insert]
  by_cases hother : key = other
  · subst hother
    simp
  · simp [hother]

/-- What is said of a query that is recorded. -/
def entryFor (s : Store) (query : Query) : RecordEntry :=
  if (s.orphan? query.connection query.command).isSome then .insertedWithResult else .inserted

/-- The record a query gets in a generation: resolved if a result was waiting for it. -/
def recordFor (s : Store) (query : Query) (generation : Nat) : RecordedQuery where
  query := query
  generation := generation
  resolution := (s.orphan? query.connection query.command).map (·.resolution)
  expanded := s.settings.expandByDefault
  received := s.lastNumber

/-- The store in which a query is recorded in the session at a place: the session lists its command
and no result waits for it any more. -/
def withQuery (s : Store) (place generation : Nat) (query : Query) : Store :=
  let reconciled := if (s.orphan? query.connection query.command).isSome then 1 else 0
  { s with
    sessions := s.sessions.modify place (·.issued query.command s.lastNumber)
    records := s.records.insert ⟨⟨query.connection, generation⟩, query.command⟩
      (s.recordFor query generation)
    orphans := s.otherOrphans query.connection query.command
    counts.queriesIssued := s.counts.queriesIssued + 1
    counts.orphansReconciled := s.counts.orphansReconciled + reconciled
    counts.resultsApplied := s.counts.resultsApplied + reconciled }

theorem recordIn_eq {query : Query} {generation : Nat}
    (hkey : ⟨⟨query.connection, generation⟩, query.command⟩ ∉ s.records) (place : Nat) :
    s.recordIn place generation query =
      .ok (s.entryFor query, s.withQuery place generation query) := by
  have hinsert :=
    (insert_eq_ok_iff s place ⟨query, generation, none, s.settings.expandByDefault, s.lastNumber⟩
      _).mpr ⟨hkey, rfl⟩
  simp only [recordIn, hinsert, Except.map, reconcile]
  congr 1
  split
  next hnone =>
    have hnone' : s.orphan? query.connection query.command = none := hnone
    simp only [entryFor, withQuery, recordFor, hnone', otherOrphans_of_orphan?_eq_none hnone']
    rfl
  next result hsome =>
    have hsome' : s.orphan? query.connection query.command = some result := hsome
    simp only [entryFor, withQuery, recordFor, hsome', resolve, Store.updateRecord]
    rw [show RecordedQuery.key ⟨query, generation, none, _, _⟩ =
      ⟨⟨query.connection, generation⟩, query.command⟩ from rfl, modify_insert]
    rfl

theorem applyIssued_of_isDuplicate {query : Query} (hdup : s.isDuplicate query = true) :
    s.applyIssued query = (.ok ⟨.duplicate, .unchanged⟩,
      { s.advance with counts.duplicateIssues := s.counts.duplicateIssues + 1 }) :=
  if_pos hdup

/-- A query that is no duplicate is recorded in the session it goes to. -/
theorem Coherent.applyIssued_of_not_isDuplicate (h : s.Coherent) {query : Query}
    (hnew : s.isDuplicate query = false) :
    ∃ place x change t, s.advance.sessionForQuery query.connection = (place, x.id, change, t) ∧
      s.advance.Destination query.connection place x t ∧
      ⟨x.id, query.command⟩ ∉ t.records ∧ x.id.connection = query.connection ∧
      s.applyIssued query =
        (.ok ⟨t.entryFor query, change⟩, t.withQuery place x.id.generation query) := by
  have hadvance := h.advance
  obtain ⟨place, x, change, t, hquery, hdest⟩ := hadvance.exists_destination query.connection
  have hkey := hdest.key_not_mem hadvance hnew
  obtain ⟨-, hconnection, -⟩ := hdest.coherent.newestPlaced?_eq_some_iff.mp hdest.found
  refine ⟨place, x, change, t, hquery, hdest, hkey, hconnection, ?_⟩
  have hid : (⟨query.connection, x.id.generation⟩ : SessionId) = x.id := by rw [← hconnection]
  have hfree : ⟨⟨query.connection, x.id.generation⟩, query.command⟩ ∉ t.records := by
    rw [hid]
    exact hkey
  have hrecord := recordIn_eq hfree place
  have hnew' : s.advance.isDuplicate query = false := hnew
  simp only [applyIssued, hnew', hquery, hrecord, Bool.false_eq_true, if_false]

theorem Coherent.withQuery (h : s.Coherent) {place : Nat} {x : Session} {query : Query}
    (hfound : s.newestPlaced? query.connection = some (place, x))
    (hkey : ⟨x.id, query.command⟩ ∉ s.records) :
    (s.withQuery place x.id.generation query).Coherent := by
  obtain ⟨hplace, hconnection, -⟩ := h.newestPlaced?_eq_some_iff.mp hfound
  have hid : x.id = (s.recordFor query x.id.generation).session := by
    rw [RecordedQuery.session, recordFor, ← hconnection]
  have hinsert := h.insert hplace hid ((insert_eq_ok_iff ..).mpr ⟨by rwa [RecordedQuery.key, ← hid], rfl⟩)
  exact hinsert.congr rfl rfl rfl rfl

theorem Coherent.applyIssued (h : s.Coherent) (query : Query) :
    (s.applyIssued query).2.Coherent := by
  cases hdup : s.isDuplicate query with
  | true =>
    rw [applyIssued_of_isDuplicate hdup]
    exact h.congr rfl rfl rfl rfl
  | false =>
    obtain ⟨place, x, change, t, -, hdest, hkey, -, heq⟩ := h.applyIssued_of_not_isDuplicate hdup
    rw [heq]
    exact hdest.coherent.withQuery hdest.found hkey

/-! ### A query has a result -/

theorem touch_counts (s : Store) (id : SessionId) : (s.touch id).counts = s.counts := by
  unfold touch
  split <;> rfl

/-- A result that has a target resolves it. -/
theorem applyResult_of_target? {result : QueryResult}
    (htarget : s.target? result.connection result.command = some key) :
    s.applyResult result = (.applied,
      { (s.advance.resolve key result).touch key.session with
        counts.resultsApplied := s.counts.resultsApplied + 1 }) := by
  have htarget' : s.advance.target? result.connection result.command = some key := htarget
  simp only [applyResult, htarget', touch_counts]
  rfl

/-- A result that has no target waits. -/
theorem applyResult_of_target?_eq_none {result : QueryResult}
    (htarget : s.target? result.connection result.command = none) :
    s.applyResult result = s.advance.buffer result := by
  have htarget' : s.advance.target? result.connection result.command = none := htarget
  simp only [applyResult, htarget']

theorem Coherent.resolve (h : s.Coherent) (key : RecordKey) (result : QueryResult) :
    (s.resolve key result).Coherent :=
  h.updateRecord key fun _ ↦ rfl

theorem Coherent.buffer (h : s.Coherent) (result : QueryResult) : (s.buffer result).2.Coherent := by
  unfold Store.buffer
  dsimp only
  split
  · exact h.congr rfl rfl rfl rfl
  · split <;> exact h.congr rfl rfl rfl rfl

theorem Coherent.applyResult (h : s.Coherent) (result : QueryResult) :
    (s.applyResult result).2.Coherent := by
  have hadvance := h.advance
  cases htarget : s.target? result.connection result.command with
  | none =>
    rw [applyResult_of_target?_eq_none htarget]
    exact hadvance.buffer result
  | some key =>
    rw [applyResult_of_target? htarget]
    exact ((hadvance.resolve key result).touch key.session).congr rfl rfl rfl rfl

/-! ### Every event -/

/-- Every event keeps a store coherent. -/
theorem Coherent.apply (h : s.Coherent) (e : Event) : (s.apply e).2.Coherent := by
  cases e with
  | session connection stage => exact h.applyStage connection stage
  | issued query => exact h.applyIssued query
  | result result => exact h.applyResult result

/-- No event fails: a query is never recorded twice. -/
theorem Coherent.exists_apply_eq_ok (h : s.Coherent) (e : Event) :
    ∃ effect, (s.apply e).1 = .ok effect := by
  cases e with
  | session connection stage => exact ⟨_, rfl⟩
  | issued query =>
    cases hdup : s.isDuplicate query with
    | true =>
      simp only [Store.apply, applyIssued_of_isDuplicate hdup]
      exact ⟨_, rfl⟩
    | false =>
      obtain ⟨place, x, change, t, -, -, -, -, heq⟩ := h.applyIssued_of_not_isDuplicate hdup
      simp only [Store.apply, heq]
      exact ⟨_, rfl⟩
  | result result => exact ⟨_, rfl⟩

end QueryWatch.Store

import QueryWatch.Proofs.Store.Waiting

/-!
How records are shown has no part in what events do. What is looked up for an event is the same in
stores that are alike (`Alike.target?_eq`, `Alike.isDuplicate_eq`), and what is changed does not
look at the records otherwise, so an event has the same outcome in alike coherent stores and leaves
them alike (`Coherent.apply_alike`). Forgetting the history leaves them alike too (`Alike.reset`).
-/

set_option autoImplicit false

namespace QueryWatch.Store

variable {s t : Store} {connection : ConnectionId} {command : CommandId} {key : RecordKey}

/-! ### What is looked up -/

namespace Alike

theorem newestSession?_eq (h : s.Alike t) (connection : ConnectionId) :
    t.newestSession? connection = s.newestSession? connection := by
  rw [h.rest]
  rfl

theorem orphan?_eq (h : s.Alike t) (connection : ConnectionId) (command : CommandId) :
    t.orphan? connection command = s.orphan? connection command := by
  rw [h.rest]
  rfl

theorem newestKey?_eq (h : s.Alike t) (connection : ConnectionId) (command : CommandId) :
    t.newestKey? connection command = s.newestKey? connection command := by
  have hmem : (fun key : RecordKey ↦ decide (key ∈ t.records)) =
      fun key ↦ decide (key ∈ s.records) := by
    ext key
    rw [decide_eq_decide.mpr h.mem_records_iff]
  unfold newestKey?
  rw [h.newestSession?_eq, hmem]

theorem target?_eq (h : s.Alike t) (connection : ConnectionId) (command : CommandId) :
    t.target? connection command = s.target? connection command := by
  unfold target?
  rw [h.newestKey?_eq, h.newestSession?_eq]
  simp only [h.isPending_eq]

theorem isDuplicate_eq (h : s.Alike t) (query : Query) :
    t.isDuplicate query = s.isDuplicate query := by
  unfold isDuplicate
  rw [h.newestSession?_eq]
  simp only [h.mem_records_iff]

/-! ### What is changed without a look at the records -/

theorem advance (h : s.Alike t) : s.advance.Alike t.advance := by
  refine ⟨?_, h.content⟩
  rw [Store.advance, h.rest]
  rfl

theorem reset (h : s.Alike t) : s.reset.Alike t.reset := by
  have hreset : t.reset = s.reset := by
    rw [h.rest]
    rfl
  rw [hreset]
  exact refl s.reset

theorem touch (h : s.Alike t) (id : SessionId) : (s.touch id).Alike (t.touch id) := by
  constructor
  · rw [h.rest]
    unfold Store.touch
    dsimp only
    cases s.placeOf[id]? with
    | none => rfl
    | some place => rfl
  · intro key
    have hsame := h.content key
    unfold content? record? at hsame ⊢
    rw [records_touch, records_touch]
    exact hsame

theorem buffer (h : s.Alike t) (result : QueryResult) :
    (t.buffer result).1 = (s.buffer result).1 ∧ (s.buffer result).2.Alike (t.buffer result).2 := by
  have horphans : (t.buffer result).2.orphans = (s.buffer result).2.orphans := by
    rw [orphans_buffer, orphans_buffer, h.rest]
    rfl
  have hcounts : (t.buffer result).2.counts = (s.buffer result).2.counts := by
    rw [counts_buffer, counts_buffer, h.rest]
    rfl
  refine ⟨?_, ?_, fun key ↦ ?_⟩
  · rw [buffer_fst, buffer_fst, h.rest]
  · rw [buffer_eq t, buffer_eq s, horphans, hcounts, h.rest]
  · have hsame := h.content key
    unfold content? record? at hsame ⊢
    rw [records_buffer, records_buffer]
    exact hsame

end Alike

/-- A stage does to the sessions what it does whatever is recorded. -/
theorem applyStage_withRecords (s : Store) (records : Std.ExtTreeMap RecordKey RecordedQuery)
    (connection : ConnectionId) (stage : SessionStage) :
    ({ s with records } : Store).applyStage connection stage =
      ((s.applyStage connection stage).1,
        { (s.applyStage connection stage).2 with records := records }) := by
  unfold applyStage
  have hnewest : ({ s with records } : Store).advance.newestPlaced? connection =
      s.advance.newestPlaced? connection := rfl
  dsimp only
  rw [hnewest]
  cases s.advance.newestPlaced? connection with
  | none => rfl
  | some found =>
    obtain ⟨place, x⟩ := found
    dsimp only
    cases x.stage <;> cases stage <;> rfl

/-- The session for a new query is the same whatever is recorded. -/
theorem sessionForQuery_withRecords (s : Store)
    (records : Std.ExtTreeMap RecordKey RecordedQuery) (connection : ConnectionId) :
    ({ s with records } : Store).sessionForQuery connection =
      let (place, id, change, t) := s.sessionForQuery connection
      (place, id, change, { t with records }) := by
  unfold sessionForQuery
  have hnewest : ({ s with records } : Store).newestPlaced? connection =
      s.newestPlaced? connection := rfl
  rw [hnewest]
  cases s.newestPlaced? connection with
  | none => rfl
  | some found =>
    obtain ⟨place, x⟩ := found
    dsimp only
    cases x.stage <;> rfl

/-! ### What is recorded -/

/-- A result that resolves a record says nothing about how it is shown. -/
theorem content?_resolve (s : Store) (key other : RecordKey) (result : QueryResult) :
    (s.resolve key result).content? other =
      if key = other then
        (s.content? other).map fun r ↦ { r with resolution := some result.resolution }
      else s.content? other := by
  simp only [content?, record?, resolve, updateRecord, Std.ExtTreeMap.getElem?_modify,
    Std.compare_eq_iff_eq]
  split
  next hsame =>
    subst hsame
    cases s.records[key]? <;> rfl
  next => rfl

theorem Alike.resolve (h : s.Alike t) (key : RecordKey) (result : QueryResult) :
    (s.resolve key result).Alike (t.resolve key result) := by
  constructor
  · rw [Store.resolve, h.rest]
    rfl
  · intro other
    rw [content?_resolve, content?_resolve, h.content]

theorem content?_withQuery (s : Store) (place generation : Nat) (query : Query) (key : RecordKey) :
    (s.withQuery place generation query).content? key =
      if ⟨⟨query.connection, generation⟩, query.command⟩ = key then
        some (s.recordFor query generation).apartFromExpanded
      else s.content? key := by
  simp only [content?, record?, withQuery, Std.ExtTreeMap.getElem?_insert, Std.compare_eq_iff_eq]
  split <;> rfl

theorem Alike.withQuery (h : s.Alike t) (place generation : Nat) (query : Query) :
    (s.withQuery place generation query).Alike (t.withQuery place generation query) := by
  have hrecord : t.recordFor query generation = s.recordFor query generation := by
    rw [h.rest]
    rfl
  constructor
  · rw [Store.withQuery, h.rest]
    rfl
  · intro key
    rw [content?_withQuery, content?_withQuery, hrecord, h.content]

/-! ### Events -/

theorem Indexed.applyStage_alike (hs : s.Indexed) (h : s.Alike t) (connection : ConnectionId)
    (stage : SessionStage) :
    (t.applyStage connection stage).1 = (s.applyStage connection stage).1 ∧
      (s.applyStage connection stage).2.Alike (t.applyStage connection stage).2 := by
  have hrecords : (s.applyStage connection stage).2.records = s.records := by
    rcases hs.applyStage_cases connection stage with ⟨place, x, -, -, heq⟩ | ⟨-, -, heq⟩
    · rw [heq]
      rfl
    · rw [heq]
      rfl
  have hboth := applyStage_withRecords s t.records connection stage
  rw [← h.rest] at hboth
  rw [hboth]
  refine ⟨rfl, rfl, fun key ↦ ?_⟩
  have hsame := h.content key
  unfold content? record? at hsame ⊢
  rw [hrecords]
  exact hsame

theorem Coherent.applyIssued_alike (hs : s.Coherent) (ht : t.Coherent) (h : s.Alike t)
    (query : Query) :
    (t.applyIssued query).1 = (s.applyIssued query).1 ∧
      (s.applyIssued query).2.Alike (t.applyIssued query).2 := by
  cases hdup : s.isDuplicate query with
  | true =>
    rw [applyIssued_of_isDuplicate hdup,
      applyIssued_of_isDuplicate ((h.isDuplicate_eq query).trans hdup)]
    refine ⟨rfl, ?_, h.content⟩
    rw [h.rest]
    rfl
  | false =>
    obtain ⟨place, x, change, u, hgoes, hdest, -, -, heq⟩ := hs.applyIssued_of_not_isDuplicate hdup
    obtain ⟨other, y, change', v, hgoes', -, -, -, heq'⟩ :=
      ht.applyIssued_of_not_isDuplicate ((h.isDuplicate_eq query).trans hdup)
    have hboth := sessionForQuery_withRecords s.advance t.advance.records query.connection
    rw [← h.advance.rest, hgoes', hgoes] at hboth
    obtain ⟨rfl, hid, rfl, rfl⟩ : other = place ∧ y.id = x.id ∧ change' = change ∧
        v = { u with records := t.advance.records } := by
      simpa only [Prod.mk.injEq] using hboth
    have hu : u.Alike { u with records := t.advance.records } := by
      refine ⟨rfl, fun key ↦ ?_⟩
      have hsame := h.content key
      unfold content? record? at hsame ⊢
      rw [hdest.records_eq]
      exact hsame
    rw [heq, heq', hid, entryFor, entryFor, hu.orphan?_eq]
    exact ⟨rfl, hu.withQuery other x.id.generation query⟩

theorem Alike.applyResult (h : s.Alike t) (result : QueryResult) :
    (t.applyResult result).1 = (s.applyResult result).1 ∧
      (s.applyResult result).2.Alike (t.applyResult result).2 := by
  have htargets := h.target?_eq result.connection result.command
  cases htarget : s.target? result.connection result.command with
  | none =>
    rw [applyResult_of_target?_eq_none htarget,
      applyResult_of_target?_eq_none (htargets.trans htarget)]
    exact h.advance.buffer result
  | some key =>
    rw [applyResult_of_target? htarget, applyResult_of_target? (htargets.trans htarget)]
    have htouched := (h.advance.resolve key result).touch key.session
    refine ⟨rfl, ?_, htouched.content⟩
    rw [htouched.rest, h.rest]

/-- An event has the same outcome in alike coherent stores, and leaves them alike. -/
theorem Coherent.apply_alike (hs : s.Coherent) (ht : t.Coherent) (h : s.Alike t) (e : Event) :
    (t.apply e).1 = (s.apply e).1 ∧ (s.receive e).Alike (t.receive e) := by
  cases e with
  | session connection stage =>
    obtain ⟨heffect, halike⟩ := hs.applyStage_alike h connection stage
    exact ⟨congrArg (fun change ↦ Except.ok (EventEffect.session change)) heffect, halike⟩
  | issued query =>
    obtain ⟨heffect, halike⟩ := hs.applyIssued_alike ht h query
    exact ⟨congrArg (Except.map EventEffect.issued) heffect, halike⟩
  | result result =>
    obtain ⟨heffect, halike⟩ := h.applyResult result
    exact ⟨congrArg (fun outcome ↦ Except.ok (EventEffect.result outcome)) heffect, halike⟩

end QueryWatch.Store

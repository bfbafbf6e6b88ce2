import Mathlib.Algebra.GroupWithZero.Nat
import QueryWatch.Proofs.Store.Records
import QueryWatch.Proofs.Store.Waiting

/-!
The counts of a store balance. Each count is tied to what the store holds or to what was said of the
events since the last reset: of an issued query what became of it (`recorded?`), of a result what it
did (`resultEffect?`), and whether it took the place of one that waited (`replaces`). `Counted` says
what one event adds to each side of each of these equations, and every step of a coherent store is
counted so (`Coherent.counted_step`); with that the equations (`Balanced`) hold along every run
(`counts_run`).
-/

set_option autoImplicit false

namespace QueryWatch.Store

variable {s t : Store} {e : Event} {connection : ConnectionId}

/-! ### What is said of an event -/

/-- What became of the query that an event issues. -/
def recorded? (s : Store) (e : Event) : Option RecordEntry :=
  match (s.apply e).1 with
  | .ok (.issued outcome) => some outcome.entry
  | _ => none

/-- What the result that an event brings did. -/
def resultEffect? (s : Store) (e : Event) : Option ResultEffect :=
  match (s.apply e).1 with
  | .ok (.result outcome) => some outcome
  | _ => none

/-- Whether an event brings a result that takes the place of one that waits for the same command. -/
def replaces (s : Store) (e : Event) : Bool :=
  match e with
  | .result r => s.resultEffect? e = some .buffered ∧ (s.orphan? r.connection r.command).isSome
  | .session _ _ => false
  | .issued _ => false

@[simp]
theorem recorded?_session (s : Store) (connection : ConnectionId) (stage : SessionStage) :
    s.recorded? (.session connection stage) = none := rfl

@[simp]
theorem recorded?_result (s : Store) (result : QueryResult) :
    s.recorded? (.result result) = none := rfl

@[simp]
theorem resultEffect?_session (s : Store) (connection : ConnectionId) (stage : SessionStage) :
    s.resultEffect? (.session connection stage) = none := rfl

@[simp]
theorem resultEffect?_issued (s : Store) (query : Query) :
    s.resultEffect? (.issued query) = none := by
  unfold resultEffect?
  rw [show (s.apply (.issued query)).1 = (s.applyIssued query).1.map .issued from rfl]
  cases (s.applyIssued query).1 <;> rfl

@[simp]
theorem replaces_issued (s : Store) (query : Query) : s.replaces (.issued query) = false := rfl

theorem Coherent.recorded?_issued (hs : s.Coherent) (query : Query) :
    s.recorded? (.issued query) =
      some (if s.isDuplicate query then .duplicate else s.entryFor query) := by
  unfold recorded? Store.apply
  cases hdup : s.isDuplicate query with
  | true =>
    simp only [applyIssued_of_isDuplicate hdup]
    rfl
  | false =>
    obtain ⟨place, x, change, t, -, hdest, -, -, heq⟩ := hs.applyIssued_of_not_isDuplicate hdup
    have hentry : t.entryFor query = s.entryFor query := by
      unfold entryFor orphan?
      rw [hdest.orphans_eq]
      rfl
    simp only [heq, hentry]
    rfl

theorem resultEffect?_result (s : Store) (result : QueryResult) :
    s.resultEffect? (.result result) =
      some (if (s.target? result.connection result.command).isSome then .applied
        else if s.settings.orphanCapacity = 0 then .dropped else .buffered) := by
  unfold resultEffect? Store.apply
  cases htarget : s.target? result.connection result.command with
  | none =>
    simp only [applyResult_of_target?_eq_none htarget]
    rw [buffer_fst]
    rfl
  | some key =>
    simp only [applyResult_of_target? htarget]
    rfl

/-! ### What one event adds -/

/-- How many sessions are of a connection whose name had been used before. -/
def reuseCount (s : Store) : Nat := s.ids.countP (0 < ·.generation)

/-- What an event adds to the counts, next to what it adds to what they count. -/
structure Counted (s : Store) (e : Event) (t : Store) : Prop where
  issued : t.counts.queriesIssued + s.recordCount = s.counts.queriesIssued + t.recordCount
  reused : t.counts.sessionReuses + s.reuseCount = s.counts.sessionReuses + t.reuseCount
  duplicates : t.counts.duplicateIssues =
    s.counts.duplicateIssues + if s.recorded? e = some .duplicate then 1 else 0
  applied : t.counts.resultsApplied + s.counts.orphansReconciled =
    s.counts.resultsApplied + t.counts.orphansReconciled +
      if s.resultEffect? e = some .applied then 1 else 0
  reconciled : t.counts.orphansReconciled =
    s.counts.orphansReconciled + if s.recorded? e = some .insertedWithResult then 1 else 0
  dropped : t.counts.orphansDropped =
    s.counts.orphansDropped + if s.resultEffect? e = some .dropped then 1 else 0
  waited : t.counts.orphanResults + s.counts.orphansDropped + s.counts.orphansReconciled +
      s.counts.orphansEvicted + s.waitingCount =
    s.counts.orphanResults + t.counts.orphansDropped + t.counts.orphansReconciled +
      t.counts.orphansEvicted + t.waitingCount + if s.replaces e then 1 else 0

theorem reuseCount_openNext (s : Store) (connection : ConnectionId) (stage : SessionStage) :
    (s.openNext connection stage).counts.sessionReuses + s.reuseCount =
      s.counts.sessionReuses + (s.openNext connection stage).reuseCount := by
  unfold reuseCount
  rw [ids_openNext, List.countP_append]
  simp only [openNext, nextId, List.countP_singleton, decide_eq_true_eq]
  split <;> split <;> omega

theorem Destination.reuseCount {place : Nat} {x : Session}
    (h : s.Destination connection place x t) :
    t.counts.sessionReuses + s.reuseCount = s.counts.sessionReuses + t.reuseCount := by
  rcases h.cases with ⟨rfl, -⟩ | ⟨-, rfl, -⟩
  · rfl
  · exact reuseCount_openNext s connection .started

theorem reuseCount_congr (hids : t.ids = s.ids) : t.reuseCount = s.reuseCount := by
  unfold reuseCount
  rw [hids]

/-- A query that is recorded is counted with the session that is opened for it and with the result
that waited for it. -/
theorem Coherent.counted_recorded (hs : s.Coherent) {query : Query} {place : Nat} {x : Session}
    (hnew : s.isDuplicate query = false)
    (hdestination : s.advance.Destination query.connection place x t)
    (hconnection : x.id.connection = query.connection) (hkey : ⟨x.id, query.command⟩ ∉ t.records) :
    s.Counted (.issued query) (t.withQuery place x.id.generation query) := by
  have hentry := hs.recorded?_issued query
  rw [hnew, if_neg Bool.false_ne_true, entryFor] at hentry
  have horphans : t.orphans = s.orphans := hdestination.orphans_eq
  have horphan : t.orphan? query.connection query.command =
      s.orphan? query.connection query.command := by
    rw [orphan?, horphans, orphan?]
  have hlength := t.length_otherOrphans query.connection query.command
  rw [horphan, horphans] at hlength
  have hfree : ⟨⟨query.connection, x.id.generation⟩, query.command⟩ ∉ t.records := by
    rw [← hconnection]
    exact hkey
  obtain ⟨reuses, hcounts⟩ : ∃ reuses, t.counts = { s.counts with sessionReuses := reuses } := by
    rcases hdestination.cases with ⟨rfl, -⟩ | ⟨-, rfl, -⟩ <;> exact ⟨_, rfl⟩
  have hreuses := hdestination.reuseCount
  constructor
  · show t.counts.queriesIssued + 1 + s.records.size =
      s.counts.queriesIssued + (t.records.insert _ _).size
    rw [Std.ExtTreeMap.size_insert, if_neg (mt Std.ExtTreeMap.contains_iff_mem.mp hfree),
      hdestination.records_eq, hcounts]
    show _ = s.counts.queriesIssued + (s.records.size + 1)
    dsimp only
    omega
  · rw [reuseCount_congr (ids_withQuery ..)]
    exact hreuses
  · rw [hentry]
    simp only [Store.withQuery, hcounts]
    split <;> rfl
  · simp only [Store.withQuery, hcounts, resultEffect?_issued, reduceCtorEq, if_false]
    omega
  · rw [hentry]
    simp only [Store.withQuery, hcounts, horphan]
    split <;> rfl
  · simp only [Store.withQuery, hcounts, resultEffect?_issued]
    rfl
  · simp only [Store.withQuery, hcounts, horphan, waitingCount, replaces_issued,
      Bool.false_eq_true, if_false]
    omega

/-- As many wait as before and one more, less the one of the same command and the one in front if
there is no room. -/
theorem length_orphans_buffer (s : Store) (result : QueryResult) :
    (s.buffer result).2.orphans.length =
      let others := s.otherOrphans result.connection result.command
      if s.settings.orphanCapacity = 0 then s.orphans.length
      else if others.length < s.settings.orphanCapacity then others.length + 1
      else others.length := by
  rw [orphans_buffer]
  dsimp only
  by_cases hzero : s.settings.orphanCapacity = 0
  · rw [if_pos hzero, if_pos hzero]
  · rw [if_neg hzero, if_neg hzero]
    by_cases hroom : (s.otherOrphans result.connection result.command).length <
      s.settings.orphanCapacity
    · rw [if_neg (Nat.not_le.mpr hroom), if_pos hroom, List.length_append, List.length_singleton]
    · rw [if_pos (Nat.not_lt.mp hroom), if_neg hroom, List.length_append, List.length_singleton,
        List.length_tail]
      omega

theorem size_records_resolve (s : Store) (key : RecordKey) (result : QueryResult) :
    (s.resolve key result).records.size = s.records.size :=
  Std.ExtTreeMap.size_modify

/-- A result that has no target is counted with what becomes of it and what is given up for it. -/
theorem counted_buffered {result : QueryResult}
    (htarget : s.target? result.connection result.command = none) :
    s.Counted (.result result) (s.advance.buffer result).2 := by
  have heffect := s.resultEffect?_result result
  rw [htarget, Option.isSome_none, if_neg Bool.false_ne_true] at heffect
  have hcounts := counts_buffer s.advance result
  have hlength := s.length_otherOrphans result.connection result.command
  constructor
  · rw [hcounts, recordCount, recordCount, records_buffer]
    rfl
  · rw [hcounts, reuseCount_congr (ids_congr (sessions_buffer ..))]
    rfl
  · rw [hcounts]
    rfl
  · rw [hcounts, heffect]
    dsimp only
    split <;> rfl
  · rw [hcounts]
    rfl
  · rw [hcounts, heffect]
    dsimp only
    show s.counts.orphansDropped + (if s.settings.orphanCapacity = 0 then 1 else 0) = _
    split <;> rfl
  · have hreplaces : s.replaces (.result result) = true ↔ s.settings.orphanCapacity ≠ 0 ∧
        (s.orphan? result.connection result.command).isSome = true := by
      rw [replaces, heffect, decide_eq_true_eq]
      refine and_congr_left' ?_
      split
      next hzero => exact iff_of_false (by simp) (not_not_intro hzero)
      next hpos => exact iff_of_true rfl hpos
    have hwaiting := length_orphans_buffer s.advance result
    have hadvance : s.advance.otherOrphans result.connection result.command =
        s.otherOrphans result.connection result.command ∧ s.advance.settings = s.settings ∧
        s.advance.counts = s.counts ∧ s.advance.orphans = s.orphans := ⟨rfl, rfl, rfl, rfl⟩
    simp only [hadvance] at hcounts hwaiting
    simp only [hreplaces, hcounts, waitingCount, hwaiting]
    by_cases hzero : s.settings.orphanCapacity = 0
    · simp only [hzero, ne_eq, not_true_eq_false, false_and, true_or, if_true, if_false]
      omega
    · simp only [hzero, ne_eq, not_false_eq_true, true_and, false_or, if_false]
      split <;> omega

/-- A result that has a target is counted as applied. -/
theorem counted_resolved {result : QueryResult} {key : RecordKey}
    (htarget : s.target? result.connection result.command = some key) :
    s.Counted (.result result)
      { (s.advance.resolve key result).touch key.session with
        counts.resultsApplied := s.counts.resultsApplied + 1 } := by
  have heffect := s.resultEffect?_result result
  rw [htarget, Option.isSome_some, if_pos rfl] at heffect
  have hcounts : ((s.advance.resolve key result).touch key.session).counts = s.counts :=
    touch_counts ..
  have hreplaces : ¬s.replaces (.result result) = true := by
    rw [replaces, heffect, decide_eq_true_eq]
    exact fun hboth ↦ nomatch hboth.1
  constructor
  · simp only [hcounts, recordCount, records_touch]
    rw [size_records_resolve]
    rfl
  · simp only [hcounts]
    refine congrArg (s.counts.sessionReuses + ·) (reuseCount_congr ?_).symm
    exact ids_touch (s.advance.resolve key result) key.session
  · simp only [hcounts, recorded?_result]
    rfl
  · simp only [hcounts, heffect, if_true]
    omega
  · simp only [hcounts, recorded?_result]
    rfl
  · simp only [hcounts, heffect]
    rfl
  · simp only [hcounts, waitingCount, orphans_touch]
    rw [if_neg hreplaces]
    rfl

/-- Every step of a coherent store is counted. -/
theorem Coherent.counted_step (hs : s.Coherent) (h : s.Step e t) : s.Counted e t := by
  cases h with
  | staged hnewest hstage =>
    refine ⟨rfl, ?_, rfl, rfl, rfl, rfl, rfl⟩
    refine congrArg (s.counts.sessionReuses + ·) (reuseCount_congr ?_).symm
    exact ids_updateSession _ fun _ ↦ rfl
  | @opened connection stage hvacant hstart =>
    exact ⟨rfl, reuseCount_openNext s.advance connection stage, rfl, rfl, rfl, rfl, rfl⟩
  | @repeated query hduplicate =>
    have hentry := hs.recorded?_issued query
    rw [hduplicate, if_pos rfl] at hentry
    refine ⟨rfl, rfl, ?_, ?_, ?_, ?_, rfl⟩
    · rw [hentry]
      rfl
    · rw [resultEffect?_issued]
      rfl
    · rw [hentry]
      rfl
    · rw [resultEffect?_issued]
      rfl
  | recorded hnew hdestination hconnection hkey =>
    exact hs.counted_recorded hnew hdestination hconnection hkey
  | resolved htarget => exact counted_resolved htarget
  | buffered htarget => exact counted_buffered htarget

/-! ### Runs -/

/-- In a coherent store there are as many records as the sessions count queries. -/
theorem Coherent.recordCount_eq_sum (hs : s.Coherent) :
    s.recordCount = (s.sessions.map (·.queryCount)).sum := by
  rw [← hs.length_listed, listed, List.length_flatMap]
  congr 1
  refine List.map_congr_left fun x hx ↦ ?_
  rw [hs.length_recordsOf hx]

/-- The counts agree with what the store holds and with what was said of the events it heard since
the last reset. -/
structure Balanced (s : Store) (heard : List (Store × Event)) : Prop where
  issued : s.counts.queriesIssued = s.recordCount
  reused : s.counts.sessionReuses = s.reuseCount
  duplicates : s.counts.duplicateIssues = heard.countP fun h ↦ h.1.recorded? h.2 = some .duplicate
  applied : s.counts.resultsApplied =
    (heard.countP fun h ↦ h.1.resultEffect? h.2 = some .applied) + s.counts.orphansReconciled
  reconciled : s.counts.orphansReconciled =
    heard.countP fun h ↦ h.1.recorded? h.2 = some .insertedWithResult
  dropped : s.counts.orphansDropped =
    heard.countP fun h ↦ h.1.resultEffect? h.2 = some .dropped
  waited : s.counts.orphanResults = s.counts.orphansDropped + s.counts.orphansReconciled +
    s.counts.orphansEvicted + s.waitingCount + heard.countP fun h ↦ h.1.replaces h.2

theorem balanced_empty (settings : StoreSettings) (number : Nat) :
    Balanced { settings, lastNumber := number } [] :=
  ⟨rfl, rfl, rfl, rfl, rfl, rfl, rfl⟩

/-- An event that is counted keeps the counts balanced. -/
theorem Balanced.step {heard : List (Store × Event)} (hb : s.Balanced heard)
    (h : s.Counted e t) : t.Balanced (heard ++ [(s, e)]) := by
  have hcount : ∀ p : Store × Event → Bool,
      (heard ++ [(s, e)]).countP p = heard.countP p + if p (s, e) then 1 else 0 := by
    intro p
    rw [List.countP_append, List.countP_singleton]
  constructor
  · have hissued := h.issued
    rw [hb.issued] at hissued
    omega
  · have hreused := h.reused
    rw [hb.reused] at hreused
    omega
  · rw [h.duplicates, hb.duplicates, hcount]
    simp only [decide_eq_true_eq]
  · rw [hcount]
    simp only [decide_eq_true_eq]
    have happlied := h.applied
    rw [hb.applied] at happlied
    omega
  · rw [h.reconciled, hb.reconciled, hcount]
    simp only [decide_eq_true_eq]
  · rw [h.dropped, hb.dropped, hcount]
    simp only [decide_eq_true_eq]
  · rw [hcount]
    have hwaited := h.waited
    rw [hb.waited] at hwaited
    dsimp only
    omega

/-- What people do keeps the counts balanced. -/
theorem Balanced.perform {heard : List (Store × Event)} (hb : s.Balanced heard) (hs : s.Coherent)
    (operation : Operation) : (s.perform operation).Balanced (operation.noted s heard) := by
  rcases operation.cases_isShowing with hshowing | rfl | ⟨e, rfl⟩
  · have hperformed := (perform_of_isShowing (s := s) hshowing).rest
    have hcounts : (s.perform operation).counts = s.counts := by rw [hperformed]
    have hsessions : (s.perform operation).sessions = s.sessions := by rw [hperformed]
    have horphans : (s.perform operation).orphans = s.orphans := by rw [hperformed]
    have hrecords : (s.perform operation).recordCount = s.recordCount := by
      rw [(hs.perform operation).recordCount_eq_sum, hs.recordCount_eq_sum, hsessions]
    rw [noted_of_isShowing hshowing]
    constructor
    · rw [hcounts, hrecords]
      exact hb.issued
    · rw [hcounts, reuseCount_congr (ids_congr hsessions)]
      exact hb.reused
    · rw [hcounts]
      exact hb.duplicates
    · rw [hcounts]
      exact hb.applied
    · rw [hcounts]
      exact hb.reconciled
    · rw [hcounts]
      exact hb.dropped
    · rw [hcounts, waitingCount, horphans]
      exact hb.waited
  · exact balanced_empty s.settings s.lastNumber
  · exact hb.step (hs.counted_step (hs.step_receive e))

/-- In every store that a run reaches from an empty one, counting since the last reset: as many
queries are counted as there are records, and as all sessions together count; as many reuses as
there are sessions of a later generation; as many duplicates as issued queries were said to be ones;
as many results that resolved a record as were said to, and those that had waited for their query;
as many of the latter as queries were said to be recorded with a result; as many lost for want of a
buffer as were said to be; and of the results that came before their query, each was lost, met its
query, was given up, waits still, or was replaced by a later one of the same command. -/
theorem counts_run (settings : StoreSettings) (operations : List Operation) :
    let s := (empty settings).run operations
    let heard := (empty settings).heard operations
    s.counts.queriesIssued = s.recordCount ∧
      s.recordCount = (s.sessions.map (·.queryCount)).sum ∧
      s.counts.sessionReuses = s.sessions.countP (0 < ·.id.generation) ∧
      s.counts.duplicateIssues = (heard.countP fun h ↦ h.1.recorded? h.2 = some .duplicate) ∧
      s.counts.resultsApplied =
        (heard.countP fun h ↦ h.1.resultEffect? h.2 = some .applied) +
          s.counts.orphansReconciled ∧
      s.counts.orphansReconciled =
        (heard.countP fun h ↦ h.1.recorded? h.2 = some .insertedWithResult) ∧
      s.counts.orphansDropped = (heard.countP fun h ↦ h.1.resultEffect? h.2 = some .dropped) ∧
      s.counts.orphanResults = s.counts.orphansDropped + s.counts.orphansReconciled +
        s.counts.orphansEvicted + s.waitingCount + heard.countP fun h ↦ h.1.replaces h.2 := by
  intro s heard
  have h : s.Coherent ∧ s.Balanced heard := by
    refine run_heard (P := fun s heard ↦ s.Coherent ∧ s.Balanced heard)
      ⟨coherent_empty settings, balanced_empty settings 0⟩ ?_ operations
    intro s heard operation h
    exact ⟨h.1.perform operation, h.2.perform h.1 operation⟩
  obtain ⟨hs, hb⟩ := h
  refine ⟨hb.issued, hs.recordCount_eq_sum, ?_, hb.duplicates, hb.applied, hb.reconciled,
    hb.dropped, hb.waited⟩
  rw [hb.reused, reuseCount, ids, List.countP_map]
  rfl

end QueryWatch.Store

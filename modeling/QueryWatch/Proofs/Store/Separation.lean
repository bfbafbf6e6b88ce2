import Mathlib.Data.List.Induction
import Mathlib.Logic.Function.Basic
import QueryWatch.Proofs.Store.Portion
import QueryWatch.Proofs.Store.Run

/-!
Connections do not interfere. An event leaves what is held of any other connection as it is
(`Coherent.portion_of_connection_ne`), and what it does to its own one depends on what is held of
that one only: in two coherent stores with the same portion it has the same outcome and leaves the
same portion (`Coherent.apply_of_portion`). So after any events a connection stands as after its own
events alone (`separate_run_filter`), whatever came between them; `own_events_determine` says this
of any two lists of events that agree on a connection, and of the streams of several writers that
are let in one event at a time, in any order (`Interleaving`).

All this holds as long as no result is given up: which result is given up depends on all that wait.
-/

set_option autoImplicit false

namespace QueryWatch.Store

variable {s t : Store} {e : Event} {connection : ConnectionId} {events : List Event}

/-! ### An event of another connection -/

theorem Destination.portion_of_ne (hs : s.Indexed) {other : ConnectionId} {place : Nat}
    {x : Session} (h : s.Destination other place x t) (hother : other ≠ connection) :
    t.portion connection = s.portion connection := by
  rcases h.cases with ⟨rfl, -⟩ | ⟨-, rfl, -⟩
  · rfl
  · rw [portion_openNext hs, if_neg hother]

/-- An event leaves what is held of the connections that it does not name. -/
theorem Coherent.portion_of_connection_ne (hs : s.Coherent) (h : s.Step e t)
    (hkept : t.counts.orphansEvicted = s.counts.orphansEvicted)
    (hother : e.connection ≠ connection) :
    t.portion connection = s.portion connection := by
  cases h with
  | staged hnewest hstage =>
    obtain ⟨hplace, hid, -⟩ := hs.newestPlaced?_eq_some_iff.mp hnewest
    rw [portion_updateSession hs.advance.toIndexed hplace rfl, hid]
    exact if_neg hother
  | opened hvacant hstart =>
    rw [portion_openNext hs.advance.toIndexed]
    exact if_neg hother
  | repeated hduplicate => rfl
  | recorded hnew hdestination hconnection hkey =>
    obtain ⟨hplace, -, -⟩ :=
      hdestination.coherent.newestPlaced?_eq_some_iff.mp hdestination.found
    rw [portion_withQuery hdestination.coherent.toIndexed hplace hconnection]
    have hsame : _ = s.advance.portion connection :=
      hdestination.portion_of_ne hs.advance.toIndexed hother
    exact (if_neg hother).trans hsame
  | @resolved result key htarget =>
    obtain ⟨-, hconnection, -, -⟩ :=
      hs.newestKey?_eq_some_iff.mp (hs.target?_eq_some_iff.mp htarget).1
    show ((s.advance.resolve key result).touch key.session).portion connection = _
    rw [portion_touch, portion_resolve, hconnection]
    exact if_neg hother
  | @buffered result htarget =>
    rw [portion_buffer (s := s.advance) hkept]
    exact if_neg hother

/-! ### An event of the connection itself -/

section SamePortion

variable (hs : s.Coherent) (ht : t.Coherent) (h : t.portion connection = s.portion connection)

include hs ht h in
theorem Coherent.nextId_of_portion : t.nextId connection = s.nextId connection := by
  rw [nextId, nextId, hs.generations_eq_of_portion ht h]

include hs ht h in
theorem Coherent.opening_of_portion : t.opening connection = s.opening connection := by
  rw [opening, opening, hs.nextId_of_portion ht h, hs.generations_eq_of_portion ht h]

include hs ht h in
/-- The newest session of a connection cannot be at a stage in one store where the other opens the
next one at that stage. -/
theorem Coherent.not_vacant_of_portion {place : Nat} {x : Session} {stage : SessionStage}
    (hx : s.newestPlaced? connection = some (place, x))
    (hstage : x.stage = .finished → stage = .finished) (hvacant : t.Vacant connection)
    (hstart : t.generations connection ≠ 0 → stage = .started) : False := by
  obtain ⟨other, y, hy, hsame⟩ := hs.exists_newestPlaced?_of_portion ht h hx
  have hyx : y.apartFromNumbers.stage = x.apartFromNumbers.stage := by rw [hsame]
  have hfinished := hstage (hyx.symm.trans (hvacant other y hy))
  have hgenerations := (ht.newestPlaced?_eq_some_iff.mp hy).2.2
  rw [hstart (by omega)] at hfinished
  cases hfinished

include hs ht h in
theorem Coherent.applyStage_of_portion (stage : SessionStage) :
    (t.applyStage connection stage).1 = (s.applyStage connection stage).1 ∧
      (t.applyStage connection stage).2.portion connection =
        (s.applyStage connection stage).2.portion connection := by
  have hadvance : t.advance.portion connection = s.advance.portion connection := h
  rcases hs.applyStage_cases connection stage with
    ⟨place, x, hx, hstage, heq⟩ | ⟨hvacant, hstart, heq⟩ <;>
  rcases ht.applyStage_cases connection stage with
    ⟨other, y, hy, hstage', heq'⟩ | ⟨hvacant', hstart', heq'⟩
  · refine ⟨by rw [heq, heq'], ?_⟩
    obtain ⟨_, z, hz, hsame⟩ := hs.exists_newestPlaced?_of_portion ht h hx
    rw [hy] at hz
    cases hz
    obtain ⟨hplace, hconnection, -⟩ := hs.newestPlaced?_eq_some_iff.mp hx
    obtain ⟨hother, hconnection', -⟩ := ht.newestPlaced?_eq_some_iff.mp hy
    have hstaged : ({ y with stage, lastSeen := t.lastNumber + 1 } : Session).apartFromNumbers =
        ({ x with stage, lastSeen := s.lastNumber + 1 } : Session).apartFromNumbers :=
      congrArg (fun z : Session ↦ { z with stage }) hsame
    rw [heq, heq', portion_updateSession ht.advance.toIndexed hother rfl,
      portion_updateSession hs.advance.toIndexed hplace rfl, if_pos hconnection', if_pos hconnection,
      hstaged, hadvance]
  · exact (hs.not_vacant_of_portion ht h hx hstage hvacant' hstart').elim
  · exact (ht.not_vacant_of_portion hs h.symm hy hstage' hvacant hstart).elim
  · refine ⟨by rw [heq, heq', hs.opening_of_portion ht h], ?_⟩
    have hnext := hs.advance.nextId_of_portion ht.advance hadvance
    rw [heq, heq', portion_openNext ht.advance.toIndexed, portion_openNext hs.advance.toIndexed,
      if_pos rfl, if_pos rfl, hnext, hadvance]

include hs ht h in
theorem Coherent.sessionForQuery_of_portion :
    (t.sessionForQuery connection).2.2.1 = (s.sessionForQuery connection).2.2.1 ∧
      (t.sessionForQuery connection).2.2.2.portion connection =
        (s.sessionForQuery connection).2.2.2.portion connection := by
  have hstarted : ∀ x : Session, x.stage = .started → x.stage = .finished →
      SessionStage.started = .finished := fun x hx hfinished ↦ hx.symm.trans hfinished
  rcases hs.sessionForQuery_cases connection with
    ⟨place, x, hx, hstage, heq⟩ | ⟨hvacant, heq⟩ <;>
  rcases ht.sessionForQuery_cases connection with
    ⟨other, y, hy, hstage', heq'⟩ | ⟨hvacant', heq'⟩
  · rw [heq, heq']
    exact ⟨rfl, h⟩
  · exact (hs.not_vacant_of_portion ht h hx (hstarted x hstage) hvacant' fun _ ↦ rfl).elim
  · exact (ht.not_vacant_of_portion hs h.symm hy (hstarted y hstage') hvacant fun _ ↦ rfl).elim
  · rw [heq, heq']
    refine ⟨hs.opening_of_portion ht h, ?_⟩
    show (t.openNext connection .started).portion connection =
      (s.openNext connection .started).portion connection
    rw [portion_openNext ht.toIndexed, portion_openNext hs.toIndexed, if_pos rfl, if_pos rfl,
      hs.nextId_of_portion ht h, h]

include hs ht h in
theorem Coherent.applyIssued_of_portion {query : Query} (hquery : query.connection = connection) :
    (t.applyIssued query).1 = (s.applyIssued query).1 ∧
      (t.applyIssued query).2.portion connection = (s.applyIssued query).2.portion connection := by
  subst hquery
  cases hdup : s.isDuplicate query with
  | true =>
    rw [applyIssued_of_isDuplicate hdup,
      applyIssued_of_isDuplicate (hs.isDuplicate_of_portion ht h rfl hdup)]
    exact ⟨rfl, h⟩
  | false =>
    have hdup' : t.isDuplicate query = false := by
      rw [Bool.eq_false_iff]
      intro hdup'
      rw [ht.isDuplicate_of_portion hs h.symm rfl hdup'] at hdup
      cases hdup
    obtain ⟨place, x, change, u, hgoes, hdest, -, hconnection, heq⟩ :=
      hs.applyIssued_of_not_isDuplicate hdup
    obtain ⟨other, y, change', v, hgoes', hdest', -, hconnection', heq'⟩ :=
      ht.applyIssued_of_not_isDuplicate hdup'
    have hgo := hs.advance.sessionForQuery_of_portion ht.advance h
    rw [hgoes, hgoes'] at hgo
    obtain ⟨hchange, hportion⟩ : change' = change ∧ v.portion query.connection =
      u.portion query.connection := hgo
    obtain ⟨_, z, hz, hsame⟩ :=
      hdest.coherent.exists_newestPlaced?_of_portion hdest'.coherent hportion hdest.found
    rw [hdest'.found] at hz
    cases hz
    obtain ⟨hplace, -, -⟩ := hdest.coherent.newestPlaced?_eq_some_iff.mp hdest.found
    obtain ⟨hother, -, -⟩ := hdest'.coherent.newestPlaced?_eq_some_iff.mp hdest'.found
    rw [heq, heq', portion_withQuery hdest'.coherent.toIndexed hother hconnection',
      portion_withQuery hdest.coherent.toIndexed hplace hconnection, if_pos rfl, if_pos rfl,
      hportion, entryFor, entryFor, orphan?_eq_of_portion hportion, hchange]
    exact ⟨rfl, Portion.withQuery_congr _ hsame query⟩

include hs ht h in
theorem Coherent.applyResult_of_portion {result : QueryResult}
    (hresult : result.connection = connection)
    (hkept : (s.applyResult result).2.counts.orphansEvicted = s.counts.orphansEvicted)
    (hkept' : (t.applyResult result).2.counts.orphansEvicted = t.counts.orphansEvicted) :
    (t.applyResult result).1 = (s.applyResult result).1 ∧
      (t.applyResult result).2.portion connection =
        (s.applyResult result).2.portion connection := by
  subst hresult
  have htargets := hs.target?_eq_of_portion ht h result.command
  cases htarget : s.target? result.connection result.command with
  | none =>
    rw [applyResult_of_target?_eq_none htarget] at hkept ⊢
    rw [applyResult_of_target?_eq_none (htargets.trans htarget)] at hkept' ⊢
    have hsettings : t.settings = s.settings := congrArg Portion.settings h
    have hadvance : t.advance.portion result.connection = s.advance.portion result.connection := h
    rw [portion_buffer (s := t.advance) hkept', portion_buffer (s := s.advance) hkept, if_pos rfl,
      if_pos rfl, hadvance, buffer_fst, buffer_fst]
    refine ⟨?_, rfl⟩
    show (if t.settings.orphanCapacity = 0 then _ else _) =
      if s.settings.orphanCapacity = 0 then _ else _
    rw [hsettings]
  | some key =>
    rw [applyResult_of_target? htarget, applyResult_of_target? (htargets.trans htarget)]
    refine ⟨rfl, ?_⟩
    show ((t.advance.resolve key result).touch key.session).portion result.connection =
      ((s.advance.resolve key result).touch key.session).portion result.connection
    have hadvance : t.advance.portion result.connection = s.advance.portion result.connection := h
    rw [portion_touch, portion_touch, portion_resolve, portion_resolve, hadvance]

include hs ht h in
/-- An event has the same outcome and leaves the same of its connection in stores that hold the same
of it. -/
theorem Coherent.apply_of_portion (he : e.connection = connection)
    (hkept : (s.receive e).counts.orphansEvicted = s.counts.orphansEvicted)
    (hkept' : (t.receive e).counts.orphansEvicted = t.counts.orphansEvicted) :
    (t.apply e).1 = (s.apply e).1 ∧
      (t.receive e).portion connection = (s.receive e).portion connection := by
  cases e with
  | session other stage =>
    obtain rfl : other = connection := he
    obtain ⟨heffect, hportion⟩ := hs.applyStage_of_portion ht h stage
    exact ⟨congrArg (fun change ↦ Except.ok (EventEffect.session change)) heffect, hportion⟩
  | issued query =>
    obtain ⟨heffect, hportion⟩ := hs.applyIssued_of_portion ht h he
    exact ⟨congrArg (Except.map EventEffect.issued) heffect, hportion⟩
  | result result =>
    obtain ⟨heffect, hportion⟩ := hs.applyResult_of_portion ht h he hkept hkept'
    exact ⟨congrArg (fun outcome ↦ Except.ok (EventEffect.result outcome)) heffect, hportion⟩

end SamePortion

/-! ### Results that are given up -/

/-- If of the results that wait in one store just those of a connection wait in another one, an
event of the connection makes none be given up there when it makes none be given up here. -/
theorem Coherent.orphansEvicted_eq_of_portion (hs : s.Coherent) (ht : t.Coherent)
    (h : t.portion connection = s.portion connection)
    (hown : ∀ o ∈ t.orphans, o.connection = connection) (he : e.connection = connection)
    (hkept : (s.receive e).counts.orphansEvicted = s.counts.orphansEvicted) :
    (t.receive e).counts.orphansEvicted = t.counts.orphansEvicted := by
  refine (ht.step_receive e).orphansEvicted_eq fun result heq htarget ↦ ?_
  subst heq
  obtain rfl : result.connection = connection := he
  have hsettings : t.settings = s.settings := congrArg Portion.settings h
  have hothers : t.otherOrphans result.connection result.command =
      (s.otherOrphans result.connection result.command).filter
        (·.connection = result.connection) := by
    have hall : t.orphans.filter (·.connection = result.connection) = t.orphans :=
      List.filter_eq_self.mpr fun o ho ↦ decide_eq_true (hown o ho)
    rw [filter_connection_otherOrphans, if_pos rfl, otherOrphans]
    exact congrArg (List.eraseP _) (hall.symm.trans (congrArg Portion.orphans h))
  have hnone := (hs.target?_eq_of_portion ht h result.command).symm.trans htarget
  have hbuffer : s.receive (.result result) = (s.advance.buffer result).2 :=
    congrArg Prod.snd (applyResult_of_target?_eq_none hnone)
  rw [hbuffer] at hkept
  rw [hsettings, hothers]
  exact ((orphansEvicted_buffer_eq_iff s.advance result).mp hkept).imp_right
    (Nat.lt_of_le_of_lt (List.length_filter_le _ _))

/-! ### Runs -/

/-- The store after events alone. -/
def after (s : Store) (events : List Event) : Store := s.run (events.map .event)

theorem after_append (s : Store) (first second : List Event) :
    s.after (first ++ second) = (s.after first).after second := by
  rw [after, List.map_append, run_append]
  rfl

theorem after_concat (s : Store) (events : List Event) (e : Event) :
    s.after (events ++ [e]) = (s.after events).receive e :=
  after_append s events [e]

theorem Coherent.after (hs : s.Coherent) (events : List Event) : (s.after events).Coherent :=
  hs.run _

/-- What the events of a connection do, one after the other, among all events. -/
def effectsOn (s : Store) (connection : ConnectionId) : List Event → List (Except Failure EventEffect)
  | [] => []
  | e :: rest =>
    (if e.connection = connection then [(s.apply e).1] else []) ++
      (s.receive e).effectsOn connection rest

theorem effectsOn_concat (s : Store) (connection : ConnectionId) (events : List Event) (e : Event) :
    s.effectsOn connection (events ++ [e]) = s.effectsOn connection events ++
      if e.connection = connection then [((s.after events).apply e).1] else [] := by
  induction events generalizing s with
  | nil => exact List.append_nil _
  | cons first rest ih =>
    rw [List.cons_append, effectsOn, effectsOn, ih, List.append_assoc]
    rfl

/-- A result that waits has come. -/
theorem mem_of_mem_orphans_after {settings : StoreSettings} {o : QueryResult}
    (ho : o ∈ ((empty settings).after events).orphans) : .result o ∈ events := by
  induction events using List.reverseRecOn with
  | nil => cases ho
  | append_singleton events e ih =>
    rw [after_concat] at ho
    have hstep := ((coherent_empty settings).after events).step_receive e
    rcases hstep.mem_orphans ho with hold | rfl
    · exact List.mem_append_left _ (ih hold)
    · exact List.mem_append_right _ (List.mem_singleton_self _)

/-- After any events a connection stands as after its own ones alone. -/
theorem separate_run_filter (settings : StoreSettings) (connection : ConnectionId)
    (hkept : ((empty settings).after events).counts.orphansEvicted = 0) :
    let own := events.filter (·.connection = connection)
    ((empty settings).after own).counts.orphansEvicted = 0 ∧
      ((empty settings).after own).portion connection =
        ((empty settings).after events).portion connection ∧
      (empty settings).effectsOn connection own = (empty settings).effectsOn connection events := by
  induction events using List.reverseRecOn with
  | nil => exact ⟨rfl, rfl, rfl⟩
  | append_singleton events e ih =>
    intro own
    have hs := (coherent_empty settings).after events
    have ht := (coherent_empty settings).after (events.filter (·.connection = connection))
    rw [after_concat] at hkept
    have hstep := hs.step_receive e
    have hbefore := Nat.le_zero.mp (hkept ▸ hstep.orphansEvicted_le)
    obtain ⟨hkeptOwn, hportion, heffects⟩ := ih hbefore
    by_cases he : e.connection = connection
    · have hown : own = events.filter (·.connection = connection) ++ [e] := by
        simp [own, List.filter_append, he]
      have hmine : ∀ o ∈ ((empty settings).after
          (events.filter (·.connection = connection))).orphans, o.connection = connection := by
        intro o ho
        have hmem := mem_of_mem_orphans_after ho
        rw [List.mem_filter, decide_eq_true_eq] at hmem
        exact hmem.2
      have hkept' := hs.orphansEvicted_eq_of_portion ht hportion hmine he (hkept.trans hbefore.symm)
      obtain ⟨heffect, hnext⟩ :=
        hs.apply_of_portion ht hportion he (hkept.trans hbefore.symm) hkept'
      rw [hown, after_concat, after_concat, effectsOn_concat, effectsOn_concat, if_pos he, if_pos he,
        heffects, heffect]
      exact ⟨hkept'.trans hkeptOwn, hnext, rfl⟩
    · have hown : own = events.filter (·.connection = connection) := by
        simp [own, List.filter_append, he]
      rw [hown, after_concat, effectsOn_concat, if_neg he, List.append_nil]
      refine ⟨hkeptOwn, ?_, heffects⟩
      rw [hportion, hs.portion_of_connection_ne hstep (hkept.trans hbefore.symm) he]

/-- Two lists of events come to the same for a connection: its events have the same outcomes, and
its sessions, their records and its results that wait are the same afterwards, in the same order,
apart from the numbers of events. -/
structure SameFor (s : Store) (connection : ConnectionId) (first second : List Event) : Prop where
  effects : s.effectsOn connection first = s.effectsOn connection second
  history : (s.after first).history connection = (s.after second).history connection
  waiting : (s.after first).orphans.filter (·.connection = connection) =
    (s.after second).orphans.filter (·.connection = connection)

theorem SameFor.symm {first second : List Event} (h : s.SameFor connection first second) :
    s.SameFor connection second first :=
  ⟨h.effects.symm, h.history.symm, h.waiting.symm⟩

theorem SameFor.trans {first second third : List Event} (h : s.SameFor connection first second)
    (hnext : s.SameFor connection second third) : s.SameFor connection first third :=
  ⟨h.effects.trans hnext.effects, h.history.trans hnext.history, h.waiting.trans hnext.waiting⟩

theorem sameFor_filter {settings : StoreSettings} (connection : ConnectionId)
    (hkept : ((empty settings).after events).counts.orphansEvicted = 0) :
    (empty settings).SameFor connection (events.filter (·.connection = connection)) events := by
  obtain ⟨-, hportion, heffects⟩ := separate_run_filter settings connection hkept
  have hs := (coherent_empty settings).after events
  have ht := (coherent_empty settings).after (events.filter (·.connection = connection))
  exact ⟨heffects, hs.history_eq_of_portion ht hportion, congrArg Portion.orphans hportion⟩

/-! ### Writers that take turns -/

/-- Events come from several writers, one for each connection: the next event is always the first
that is left of one of the streams, until all of them are empty. -/
inductive Interleaving : (ConnectionId → List Event) → List Event → Prop
  | done {streams : ConnectionId → List Event} (hempty : ∀ connection, streams connection = []) :
      Interleaving streams []
  | next {streams : ConnectionId → List Event} (writer : ConnectionId) {e : Event}
      {rest events : List Event} (hnext : streams writer = e :: rest)
      (hrest : Interleaving (Function.update streams writer rest) events) :
      Interleaving streams (e :: events)

/-- Of an interleaving, the events of a connection are the stream of its writer. -/
theorem Interleaving.filter_eq {streams : ConnectionId → List Event}
    (h : Interleaving streams events)
    (hown : ∀ writer, ∀ e ∈ streams writer, e.connection = writer) (connection : ConnectionId) :
    events.filter (·.connection = connection) = streams connection := by
  induction h with
  | done hempty => exact (hempty connection).symm
  | @next streams writer e rest events hnext hrest ih =>
    have he : e.connection = writer := hown writer e (hnext ▸ List.mem_cons_self)
    have hownRest : ∀ other, ∀ e' ∈ Function.update streams writer rest other,
        e'.connection = other := by
      intro other e' he'
      by_cases hother : other = writer
      · subst hother
        rw [Function.update_self] at he'
        exact hown other e' (hnext ▸ List.mem_cons_of_mem e he')
      · rw [Function.update_of_ne hother] at he'
        exact hown other e' he'
    have hfilter := ih hownRest
    by_cases hsame : connection = writer
    · subst hsame
      rw [Function.update_self] at hfilter
      rw [List.filter_cons, if_pos (decide_eq_true he), hfilter, hnext]
    · rw [Function.update_of_ne hsame] at hfilter
      have hne : ¬decide (e.connection = connection) = true := fun heq ↦
        hsame ((of_decide_eq_true heq).symm.trans he)
      rw [List.filter_cons, if_neg hne, hfilter]

/-- Connections do not interfere. Two lists of events that agree on the events of a connection come
to the same for it, if no result is given up in either; and events that several writers bring in any
order, if no result is given up among them, come to the same for each connection as the stream of
its writer alone. -/
theorem own_events_determine (settings : StoreSettings) (connection : ConnectionId) :
    (∀ first second : List Event,
      first.filter (·.connection = connection) = second.filter (·.connection = connection) →
      ((empty settings).after first).counts.orphansEvicted = 0 →
      ((empty settings).after second).counts.orphansEvicted = 0 →
      (empty settings).SameFor connection first second) ∧
    ∀ (streams : ConnectionId → List Event) (events : List Event),
      (∀ writer, ∀ e ∈ streams writer, e.connection = writer) → Interleaving streams events →
      ((empty settings).after events).counts.orphansEvicted = 0 →
      ((empty settings).after (streams connection)).counts.orphansEvicted = 0 ∧
        (empty settings).SameFor connection events (streams connection) := by
  constructor
  · intro first second hsame hfirst hsecond
    have halone := sameFor_filter connection hfirst
    rw [hsame] at halone
    exact halone.symm.trans (sameFor_filter connection hsecond)
  · intro streams events hown hinterleaving hkept
    have hstream := hinterleaving.filter_eq hown connection
    obtain ⟨hkeptOwn, -⟩ := separate_run_filter settings connection hkept
    have halone := sameFor_filter connection hkept
    rw [hstream] at hkeptOwn halone
    exact ⟨hkeptOwn, halone.symm⟩

/-- One writer's result comes before its query, and the other writer's events come between them. -/
theorem own_events_determine_early_result :
    let early : List Event := [.result ⟨"2", 7, .error, some "boom", 3⟩,
      .issued ⟨"2", 7, none, "SELECT 7", [], true⟩]
    let other : List Event := [.issued ⟨"1", 7, none, "SELECT 1", [], false⟩,
      .session "1" .finished]
    let streams : ConnectionId → List Event :=
      Function.update (Function.update (fun _ ↦ []) "1" other) "2" early
    let events : List Event := [.result ⟨"2", 7, .error, some "boom", 3⟩,
      .issued ⟨"1", 7, none, "SELECT 1", [], false⟩,
      .issued ⟨"2", 7, none, "SELECT 7", [], true⟩, .session "1" .finished]
    Interleaving streams events ∧ (empty {}).SameFor "2" events early ∧
      (empty {}).SameFor "2" (other ++ early) events := by
  intro early other streams events
  have hinterleaving : Interleaving streams events := by
    refine .next "2" rfl (.next "1" rfl (.next "2" rfl (.next "1" rfl (.done fun writer ↦ ?_))))
    simp only [Function.update_apply]
    grind
  have hown : ∀ writer, ∀ e ∈ streams writer, e.connection = writer := by
    intro writer e he
    simp only [streams, Function.update_apply, early, other] at he
    grind [Event.connection]
  exact ⟨hinterleaving,
    ((own_events_determine {} "2").2 streams events hown hinterleaving (by decide)).2,
    (own_events_determine {} "2").1 _ _ (by decide) (by decide) (by decide)⟩

end QueryWatch.Store

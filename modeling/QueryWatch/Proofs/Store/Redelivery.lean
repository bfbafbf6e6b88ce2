import QueryWatch.Proofs.Store.Waiting

/-!
An event that arrives twice in a row. `Settled s e` says what an event leaves behind: its stage is
that of the newest session, its query is a duplicate, its result is that of the record it is meant
for or waits behind all others. A settled event changes nothing but numbers and counts when it comes
again (`Coherent.receive_of_settled`).

Every event is settled after its first arrival but one: a result that resolves a pending record of
an earlier generation. When it comes again the record is history, and the result waits for a query
of a newer generation (`Coherent.orphans_receive_of_resolvesLate`). `receive_receive` puts both
together for every store a run reaches.
-/

set_option autoImplicit false

namespace QueryWatch.Store

variable {s t : Store} {e : Event} {connection : ConnectionId} {command : CommandId}

/-- Two stores have the same history if they differ at most in the results that wait, in the numbers
of events and in what is counted. -/
structure SameHistory (s t : Store) : Prop where
  settings : t.settings = s.settings
  sessions : t.sessions.map Session.apartFromLastSeen = s.sessions.map Session.apartFromLastSeen
  placeOf : t.placeOf = s.placeOf
  newestPlaceOf : t.newestPlaceOf = s.newestPlaceOf
  records : t.records = s.records

/-- An event is a result that resolves a pending record of an earlier generation than the newest of
its connection. -/
def ResolvesLate (s : Store) : Event → Prop
  | .result result => ∃ key r,
      s.newestKey? result.connection result.command = some key ∧ s.record? key = some r ∧
        r.resolution = none ∧ key.session.generation + 1 < s.generations result.connection
  | _ => False

/-- An event has left behind what it says. -/
def Settled (s : Store) : Event → Prop
  | .session connection stage =>
    ∃ place x, s.newestPlaced? connection = some (place, x) ∧ x.stage = stage
  | .issued query => s.isDuplicate query = true
  | .result result =>
    (∃ key r, s.target? result.connection result.command = some key ∧ s.record? key = some r ∧
      r.resolution = some result.resolution) ∨
    s.target? result.connection result.command = none ∧
      (s.settings.orphanCapacity = 0 ∨ ∃ others, s.orphans = others ++ [result])

/-! ### The second arrival -/

/-- Resolving a record once more by the same result changes nothing. -/
theorem records_resolve_of_resolution {key : RecordKey} {r : RecordedQuery} {result : QueryResult}
    (hr : s.record? key = some r) (hresolution : r.resolution = some result.resolution) :
    (s.resolve key result).records = s.records := by
  apply Std.ExtTreeMap.ext_getElem?
  intro other
  simp only [resolve, updateRecord, Std.ExtTreeMap.getElem?_modify, Std.compare_eq_iff_eq]
  by_cases hother : key = other
  · subst hother
    rw [if_pos rfl, show s.records[key]? = some r from hr, Option.map_some, ← hresolution]
  · rw [if_neg hother]

/-- The last of the results that wait may wait once more. -/
theorem Waiting.orphans_buffer_of_last (hw : s.Waiting) {others : List QueryResult}
    {result : QueryResult} (hlast : s.orphans = others ++ [result]) :
    (s.buffer result).2.orphans = s.orphans := by
  have hdistinct := hw.distinct
  have hbounded := hw.bounded
  rw [hlast, List.pairwise_append] at hdistinct
  rw [hlast, List.length_append, List.length_singleton] at hbounded
  have hothers : s.otherOrphans result.connection result.command = others := by
    rw [otherOrphans_eq_filter hw.distinct, hlast, List.filter_append,
      List.filter_eq_self.mpr fun o ho ↦ ?_, List.filter_cons_of_neg ?_, List.filter_nil,
      List.append_nil]
    · simp [QueryResult.isOf]
    · rw [hdistinct.2.2 o ho result (List.mem_singleton_self _), Bool.not_false]
  rw [orphans_buffer, hothers]
  dsimp only
  rw [if_neg (by omega), if_neg (by omega), hlast]

theorem sameHistory_buffer (s : Store) (result : QueryResult) :
    s.SameHistory (s.buffer result).2 where
  settings := settings_buffer s result
  sessions := by rw [sessions_buffer]
  placeOf := by rw [buffer_eq]
  newestPlaceOf := by rw [buffer_eq]
  records := records_buffer s result

theorem sameHistory_touch (s : Store) (id : SessionId) : s.SameHistory (s.touch id) where
  settings := settings_touch s id
  sessions := map_touch s id fun _ _ ↦ rfl
  placeOf := by rw [touch_eq]
  newestPlaceOf := by rw [touch_eq]
  records := records_touch s id

/-- A settled event that comes again changes nothing that is kept. -/
theorem Coherent.receive_of_settled (hs : s.Coherent) (hw : s.Waiting) (hsettled : s.Settled e)
    (h : s.Step e t) : s.SameHistory t ∧ t.orphans = s.orphans := by
  cases h with
  | @staged connection stage place x hnewest hstage =>
    obtain ⟨found, y, hfound, rfl⟩ := hsettled
    rw [hnewest] at hfound
    cases hfound
    have hplace := (hs.newestPlaced?_eq_some_iff.mp hnewest).1
    refine ⟨⟨rfl, map_updateSession fun z hz ↦ ?_, rfl, rfl, rfl⟩, rfl⟩
    rw [show s.advance.sessions = s.sessions from rfl, hplace] at hz
    cases hz
    rfl
  | @opened connection stage hvacant hstart =>
    -- The newest session would be finished and, as a session is opened behind it, started.
    obtain ⟨place, x, hnewest, rfl⟩ := hsettled
    have hgenerations := (hs.newestPlaced?_eq_some_iff.mp hnewest).2.2
    have hfinished := hvacant place x hnewest
    rw [hstart (by omega)] at hfinished
    cases hfinished
  | repeated hduplicate => exact ⟨⟨rfl, rfl, rfl, rfl, rfl⟩, rfl⟩
  | recorded hnew hdestination hconnection hkey =>
    rw [show s.isDuplicate _ = true from hsettled] at hnew
    cases hnew
  | @resolved result key htarget =>
    obtain ⟨found, r, hfound, hr, hresolution⟩ | ⟨hnone, -⟩ := hsettled
    · rw [htarget] at hfound
      cases hfound
      have hrecords : (s.advance.resolve key result).records = s.records :=
        records_resolve_of_resolution (s := s.advance) hr hresolution
      have htouch := sameHistory_touch (s.advance.resolve key result) key.session
      exact ⟨⟨htouch.settings, htouch.sessions, htouch.placeOf, htouch.newestPlaceOf,
        htouch.records.trans hrecords⟩, orphans_touch (s.advance.resolve key result) key.session⟩
    · rw [htarget] at hnone
      cases hnone
  | @buffered result htarget =>
    have hhistory := sameHistory_buffer s.advance result
    refine ⟨⟨hhistory.settings, hhistory.sessions, hhistory.placeOf, hhistory.newestPlaceOf,
      hhistory.records⟩, ?_⟩
    obtain ⟨_, _, hfound, _⟩ | ⟨-, hzero | ⟨others, hlast⟩⟩ := hsettled
    · rw [htarget] at hfound
      cases hfound
    · rw [orphans_buffer]
      exact if_pos hzero
    · have hadvance : s.advance.Waiting := ⟨hw.bounded, hw.distinct, hw.untargeted⟩
      exact hadvance.orphans_buffer_of_last hlast

/-! ### The first arrival -/

/-- What a result leaves behind that resolved a record. -/
theorem Step.of_target? {result : QueryResult} {key : RecordKey} (h : s.Step (.result result) t)
    (hs : s.Coherent) (ht : t.Coherent)
    (htarget : s.target? result.connection result.command = some key) :
    t.newestKey? result.connection result.command = some key ∧
      t.generations result.connection = s.generations result.connection ∧
      t.orphans = s.orphans ∧
      ∃ r, s.record? key = some r ∧
        t.record? key = some { r with resolution := some result.resolution } := by
  have hnewest := (hs.target?_eq_some_iff.mp htarget).1
  obtain ⟨hin, hconnection, hcommand, hlast⟩ := hs.newestKey?_eq_some_iff.mp hnewest
  obtain ⟨r, hr⟩ := mem_records_iff_record?.mp hin
  cases h with
  | buffered hnone =>
    rw [htarget] at hnone
    cases hnone
  | @resolved _ found hfound =>
    rw [htarget] at hfound
    cases hfound
    have hrecords := records_touch (s.advance.resolve key result) key.session
    have hmem : ∀ other, other ∈ ((s.advance.resolve key result).touch key.session).records ↔
        other ∈ s.records := by
      intro other
      rw [hrecords]
      exact Std.ExtTreeMap.mem_modify
    refine ⟨ht.newestKey?_eq_some_iff.mpr ⟨(hmem key).mpr hin, hconnection, hcommand,
      fun generation hlt hthere ↦ hlast generation hlt ((hmem _).mp hthere)⟩,
      generations_congr (ids_touch (s.advance.resolve key result) key.session) _,
      orphans_touch (s.advance.resolve key result) key.session, r, hr, ?_⟩
    show ((s.advance.resolve key result).touch key.session).records[key]? = _
    rw [hrecords, resolve, updateRecord, Std.ExtTreeMap.getElem?_modify, if_pos (by simp)]
    rw [show s.advance.records[key]? = some r from hr]
    rfl

theorem Step.settled (h : s.Step e t) (hs : s.Coherent) (ht : t.Coherent)
    (hlate : ¬s.ResolvesLate e) : t.Settled e := by
  cases h with
  | staged hnewest hstage =>
    exact ⟨_, _, newestPlaced?_updateSession (s := s.advance) _ hnewest, rfl⟩
  | @opened connection stage hvacant hstart =>
    refine ⟨s.sessions.length, _, ht.newestPlaced?_eq_some_iff.mpr
      ⟨openNext_getElem? s.advance connection stage, rfl, ?_⟩, rfl⟩
    rw [generations_openNext, if_pos rfl]
    rfl
  | repeated hduplicate => exact hduplicate
  | @recorded query place x u hnew hdestination hconnection hkey =>
    have hnewest : (u.withQuery place x.id.generation query).newestPlaced? query.connection =
        some (place, x.issued query.command u.lastNumber) :=
      newestPlaced?_updateSession (·.issued query.command u.lastNumber) hdestination.found
    refine (isDuplicate_iff _ query).mpr ⟨x.issued query.command u.lastNumber, ?_, ?_⟩
    · rw [newestSession?, hnewest]
      rfl
    · show _ ∈ u.records.insert ⟨⟨query.connection, x.id.generation⟩, query.command⟩ _
      rw [← hconnection]
      exact Std.ExtTreeMap.mem_insert_self
  | @resolved result key htarget =>
    obtain ⟨hnewest, hgenerations, -, r, hr, hresolved⟩ :=
      (Step.resolved htarget).of_target? hs ht htarget
    refine Or.inl ⟨key, _, ht.target?_eq_some_iff.mpr ⟨hnewest, ?_⟩, hresolved, rfl⟩
    rw [hgenerations]
    obtain ⟨hkey, hlatest | hpending⟩ := hs.target?_eq_some_iff.mp htarget
    · exact Or.inl hlatest
    · obtain ⟨old, hold, hunresolved⟩ := isPending_iff.mp hpending
      obtain ⟨hin, hconnection, -, -⟩ := hs.newestKey?_eq_some_iff.mp hkey
      have hlt := hs.generation_lt_of_mem hin
      have hnot : ¬key.session.generation + 1 < s.generations result.connection := fun hearlier ↦
        hlate ⟨key, old, hkey, hold, hunresolved, hearlier⟩
      rw [hconnection] at hlt
      left
      omega
  | @buffered result htarget =>
    have hnot : ∀ query, Event.result result = .issued query →
        query.connection = result.connection → query.command ≠ result.command := by
      intro query heq
      cases heq
    refine Or.inr ⟨hs.target?_eq_none_of_step (.buffered htarget) ht hnot htarget, ?_⟩
    rw [settings_buffer, orphans_buffer]
    dsimp only
    by_cases hzero : s.advance.settings.orphanCapacity = 0
    · exact Or.inl hzero
    · rw [if_neg hzero]
      right
      split
      · exact ⟨_, rfl⟩
      · exact ⟨_, rfl⟩

/-! ### The event that is not absorbed -/

/-- A result that resolved a record of an earlier generation finds it resolved when it comes again,
and waits behind all other results. -/
theorem Coherent.orphans_receive_of_resolvesLate {u : Store} {result : QueryResult}
    (hs : s.Coherent) (hw : s.Waiting) (hlate : s.ResolvesLate (.result result))
    (h : s.Step (.result result) t) (ht : t.Coherent) (hagain : t.Step (.result result) u) :
    t.SameHistory u ∧ result ∉ t.orphans ∧
      u.orphans = if t.settings.orphanCapacity = 0 then t.orphans
        else if t.settings.orphanCapacity ≤ t.orphans.length then t.orphans.tail ++ [result]
        else t.orphans ++ [result] := by
  obtain ⟨key, r, hkey, hr, hunresolved, hearlier⟩ := hlate
  have htarget : s.target? result.connection result.command = some key :=
    hs.target?_eq_some_iff.mpr ⟨hkey, Or.inr (isPending_iff.mpr ⟨r, hr, hunresolved⟩)⟩
  obtain ⟨hnewest, hgenerations, horphans, old, -, hresolved⟩ := h.of_target? hs ht htarget
  have hnone : t.target? result.connection result.command = none := by
    cases hfound : t.target? result.connection result.command with
    | none => rfl
    | some found =>
      obtain ⟨hfound, hor⟩ := ht.target?_eq_some_iff.mp hfound
      rw [hnewest] at hfound
      cases hfound
      rcases hor with hlatest | hpending
      · omega
      · obtain ⟨r', hr', hunresolved'⟩ := isPending_iff.mp hpending
        rw [hresolved] at hr'
        cases hr'
        cases hunresolved'
  have hothers : ∀ o ∈ t.orphans, ¬o.isOf result.connection result.command = true := by
    intro o ho hisOf
    obtain ⟨hconnection, hcommand⟩ := isOf_iff.mp hisOf
    have huntargeted := hw.untargeted o (horphans ▸ ho)
    rw [hconnection, hcommand, htarget] at huntargeted
    cases huntargeted
  cases hagain with
  | resolved hsome =>
    rw [hnone] at hsome
    cases hsome
  | buffered _ =>
    have hhistory := sameHistory_buffer t.advance result
    refine ⟨⟨hhistory.settings, hhistory.sessions, hhistory.placeOf, hhistory.newestPlaceOf,
      hhistory.records⟩, fun hmem ↦ hothers result hmem (isOf_iff.mpr ⟨rfl, rfl⟩), ?_⟩
    have hall : t.advance.otherOrphans result.connection result.command = t.orphans :=
      List.eraseP_of_forall_not hothers
    rw [orphans_buffer, hall]
    rfl

/-- An event that comes twice in a row leaves the same history as if it came once, and the same
results waiting, in every store that a run reaches. Only a result that resolves a pending record of
an earlier generation waits when it comes again, if results may wait at all. -/
theorem receive_receive (settings : StoreSettings) (operations : List Operation) (e : Event) :
    let s := (empty settings).run operations
    let once := s.receive e
    let twice := once.receive e
    once.SameHistory twice ∧
      (twice.orphans = once.orphans ↔ ¬(s.ResolvesLate e ∧ 0 < settings.orphanCapacity)) ∧
      ∀ result, e = .result result → s.ResolvesLate e → 0 < settings.orphanCapacity →
        twice.orphans = (if settings.orphanCapacity ≤ once.orphans.length then once.orphans.tail
          else once.orphans) ++ [result] := by
  intro s once twice
  have hs : s.Coherent := (coherent_empty settings).run operations
  have hw : s.Waiting := (waiting_empty settings).run (coherent_empty settings) operations
  have honce : once.Coherent := hs.receive e
  have hfirst : s.Step e once := hs.step_receive e
  have hsecond : once.Step e twice := honce.step_receive e
  have hwonce : once.Waiting := hw.step hs hfirst honce
  have hsettings : once.settings = settings :=
    hfirst.settings_eq.trans ((coherent_empty settings).settings_run operations)
  by_cases hlate : s.ResolvesLate e
  · cases e with
    | session connection stage => cases hlate
    | issued query => cases hlate
    | result result =>
      obtain ⟨hhistory, hnot, horphans⟩ :=
        hs.orphans_receive_of_resolvesLate hw hlate hfirst honce hsecond
      rw [hsettings] at horphans
      by_cases hzero : settings.orphanCapacity = 0
      · rw [if_pos hzero] at horphans
        exact ⟨hhistory, by simp [horphans, hzero], fun _ _ _ hpos ↦ absurd hzero (by omega)⟩
      · rw [if_neg hzero] at horphans
        have hlast : twice.orphans = (if settings.orphanCapacity ≤ once.orphans.length then
            once.orphans.tail else once.orphans) ++ [result] := by
          rw [horphans]
          split <;> rfl
        refine ⟨hhistory, ?_, fun other hother _ _ ↦ ?_⟩
        · have hne : twice.orphans ≠ once.orphans := by
            intro heq
            rw [← heq, hlast] at hnot
            exact hnot (List.mem_append_right _ (List.mem_singleton_self _))
          exact ⟨fun heq ↦ absurd heq hne, fun hnever ↦ absurd ⟨hlate, by omega⟩ hnever⟩
        · cases hother
          exact hlast
  · obtain ⟨hhistory, horphans⟩ :=
      honce.receive_of_settled hwonce (hfirst.settled hs honce hlate) hsecond
    exact ⟨hhistory, by simp [horphans, hlate], fun _ _ hlate' ↦ absurd hlate' hlate⟩

/-- Not every event is absorbed when it comes again: after a connection was reused, the result of a
query of its first session is not. -/
theorem not_forall_orphans_receive_receive :
    ¬∀ (settings : StoreSettings) (operations : List Operation) (e : Event),
      let s := (empty settings).run operations
      let once := s.receive e
      let twice := once.receive e
      once.SameHistory twice ∧ twice.orphans = once.orphans := by
  intro hall
  have habsorbed := (hall {}
    [.event (.issued ⟨"5", 1, none, "SELECT 1", [], true⟩), .event (.session "5" .finished),
      .event (.session "5" .started)] (.result ⟨"5", 1, .ok, none, 40⟩)).2
  exact absurd habsorbed (by decide)

end QueryWatch.Store

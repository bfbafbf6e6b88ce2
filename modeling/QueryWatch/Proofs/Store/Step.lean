import QueryWatch.Proofs.Store.Events

/-!
One step of a store. `Step s e t` lists what an event can do to a coherent store, and
`Coherent.step_receive` says that every event does one of these things. What holds across every step
is read off that list: which sessions there are afterwards (`Step.ids_eq`), what a session and a
record keep (`Step.session_cases`, `Step.record_cases`), and that generations are never lost
(`Step.generations_le`).
-/

set_option autoImplicit false

namespace QueryWatch

/-- A session, apart from the number of the event that last concerned it. -/
def Session.apartFromLastSeen (x : Session) : Session := { x with lastSeen := 0 }

namespace Store

variable {s t : Store} {e : Event} {connection : ConnectionId} {key : RecordKey}

/-- The store after an event, whatever the event did. -/
def receive (s : Store) (e : Event) : Store := (s.apply e).2

/-- What an event can do to a coherent store. -/
inductive Step (s : Store) : Event → Store → Prop
  /-- The newest session of the connection is at a stage; a finished one stays finished. -/
  | staged {connection : ConnectionId} {stage : SessionStage} {place : Nat} {x : Session}
      (hnewest : s.newestPlaced? connection = some (place, x))
      (hstage : x.stage = .finished → stage = .finished) :
      Step s (.session connection stage)
        (s.advance.updateSession place fun x ↦ { x with stage, lastSeen := s.lastNumber + 1 })
  /-- A stage opens the next session of its connection. -/
  | opened {connection : ConnectionId} {stage : SessionStage} (hvacant : s.Vacant connection)
      (hstart : s.generations connection ≠ 0 → stage = .started) :
      Step s (.session connection stage) (s.advance.openNext connection stage)
  /-- A query that is a duplicate is counted only. -/
  | repeated {query : Query} (hduplicate : s.isDuplicate query = true) :
      Step s (.issued query)
        { s.advance with counts.duplicateIssues := s.counts.duplicateIssues + 1 }
  /-- A query that is no duplicate is recorded, with the result that waited for it. -/
  | recorded {query : Query} {place : Nat} {x : Session} {t : Store}
      (hnew : s.isDuplicate query = false)
      (hdestination : s.advance.Destination query.connection place x t)
      (hconnection : x.id.connection = query.connection)
      (hkey : ⟨x.id, query.command⟩ ∉ t.records) :
      Step s (.issued query) (t.withQuery place x.id.generation query)
  /-- A result resolves the record it is meant for. -/
  | resolved {result : QueryResult} {key : RecordKey}
      (htarget : s.target? result.connection result.command = some key) :
      Step s (.result result)
        { (s.advance.resolve key result).touch key.session with
          counts.resultsApplied := s.counts.resultsApplied + 1 }
  /-- A result that is meant for no record waits, if results may wait. -/
  | buffered {result : QueryResult}
      (htarget : s.target? result.connection result.command = none) :
      Step s (.result result) (s.advance.buffer result).2

theorem Coherent.step_receive (h : s.Coherent) (e : Event) : s.Step e (s.receive e) := by
  unfold receive Store.apply
  cases e with
  | session connection stage =>
    rcases h.applyStage_cases connection stage with
      ⟨place, x, hnewest, hstage, heq⟩ | ⟨hvacant, hstart, heq⟩
    · simp only [heq]
      exact .staged hnewest hstage
    · simp only [heq]
      exact .opened hvacant hstart
  | issued query =>
    cases hdup : s.isDuplicate query with
    | true =>
      simp only [applyIssued_of_isDuplicate hdup]
      exact .repeated hdup
    | false =>
      obtain ⟨place, x, change, t, -, hdest, hkey, hconnection, heq⟩ :=
        h.applyIssued_of_not_isDuplicate hdup
      simp only [heq]
      exact .recorded hdup hdest hconnection hkey
  | result result =>
    cases htarget : s.target? result.connection result.command with
    | none =>
      simp only [applyResult_of_target?_eq_none htarget]
      exact .buffered htarget
    | some key =>
      simp only [applyResult_of_target? htarget]
      exact .resolved htarget

theorem Coherent.receive (h : s.Coherent) (e : Event) : (s.receive e).Coherent := h.apply e

/-! ### What parts of a step leave alone -/

/-- Noting that a session was concerned changes nothing of what does not depend on when that was. -/
theorem map_touch {α : Type} {g : Session → α} (s : Store) (id : SessionId)
    (hsame : ∀ x number, g { x with lastSeen := number } = g x) :
    (s.touch id).sessions.map g = s.sessions.map g := by
  unfold touch
  split
  · rfl
  · exact map_updateSession fun x _ ↦ hsame x s.lastNumber

theorem ids_touch (s : Store) (id : SessionId) : (s.touch id).ids = s.ids :=
  map_touch s id fun _ _ ↦ rfl

/-- Noting that a session was concerned changes the sessions only. -/
theorem touch_eq (s : Store) (id : SessionId) :
    s.touch id = { s with sessions := (s.touch id).sessions } := by
  unfold touch
  split <;> rfl

theorem records_touch (s : Store) (id : SessionId) : (s.touch id).records = s.records := by
  rw [touch_eq]

theorem orphans_touch (s : Store) (id : SessionId) : (s.touch id).orphans = s.orphans := by
  rw [touch_eq]

theorem settings_touch (s : Store) (id : SessionId) : (s.touch id).settings = s.settings := by
  rw [touch_eq]

/-- Letting a result wait changes only which results wait and what is counted. -/
theorem buffer_eq (s : Store) (result : QueryResult) : (s.buffer result).2 =
    { s with
      orphans := (s.buffer result).2.orphans
      counts := (s.buffer result).2.counts } := by
  unfold buffer
  dsimp only
  split
  · rfl
  · split <;> rfl

theorem sessions_buffer (s : Store) (result : QueryResult) :
    (s.buffer result).2.sessions = s.sessions := by
  rw [buffer_eq]

theorem records_buffer (s : Store) (result : QueryResult) :
    (s.buffer result).2.records = s.records := by
  rw [buffer_eq]

theorem settings_buffer (s : Store) (result : QueryResult) :
    (s.buffer result).2.settings = s.settings := by
  rw [buffer_eq]

theorem ids_openNext (s : Store) (connection : ConnectionId) (stage : SessionStage) :
    (s.openNext connection stage).ids = s.ids ++ [s.nextId connection] :=
  ids_openSession s (s.nextId connection) stage

theorem ids_withQuery (s : Store) (place generation : Nat) (query : Query) :
    (s.withQuery place generation query).ids = s.ids :=
  (ids_congr rfl).trans (ids_updateSession place fun _ ↦ rfl)

theorem touch_getElem?_of_some {place : Nat} {x : Session} (id : SessionId)
    (hx : s.sessions[place]? = some x) :
    ∃ y, (s.touch id).sessions[place]? = some y ∧ y.apartFromLastSeen = x.apartFromLastSeen := by
  unfold touch
  split
  · exact ⟨x, hx, rfl⟩
  next found _ =>
    refine ⟨_, updateSession_getElem?_of_some found _ hx, ?_⟩
    split <;> rfl

theorem exists_of_mem_touch {id : SessionId} {y : Session} (hy : y ∈ (s.touch id).sessions) :
    ∃ x ∈ s.sessions, y.apartFromLastSeen = x.apartFromLastSeen := by
  unfold touch at hy
  split at hy
  · exact ⟨y, hy, rfl⟩
  · obtain ⟨x, hx, rfl | ⟨-, rfl⟩⟩ := exists_of_mem_updateSession hy
    · exact ⟨y, hx, rfl⟩
    · exact ⟨x, hx, rfl⟩

/-- A session is still at its place when its connection or another one got a new session. -/
theorem openNext_getElem?_of_some {place : Nat} {x : Session} (connection : ConnectionId)
    (stage : SessionStage) (hx : s.sessions[place]? = some x) :
    (s.openNext connection stage).sessions[place]? = some x :=
  (List.getElem?_append_left (List.getElem?_eq_some_iff.mp hx).1).trans hx

theorem Destination.getElem?_of_some {place other : Nat} {x y : Session}
    (h : s.Destination connection place x t) (hy : s.sessions[other]? = some y) :
    t.sessions[other]? = some y := by
  rcases h.cases with ⟨rfl, -⟩ | ⟨-, rfl, -⟩
  · exact hy
  · exact openNext_getElem?_of_some connection .started hy

theorem Destination.generations_le {place : Nat} {x : Session}
    (h : s.Destination connection place x t) (other : ConnectionId) :
    s.generations other ≤ t.generations other := by
  rcases h.cases with ⟨rfl, -⟩ | ⟨-, rfl, -⟩
  · exact Nat.le_refl _
  · rw [generations_openNext]
    split
    · exact Nat.le_succ _
    · exact Nat.le_refl _

/-- If the session that a query goes to was there before, it was the newest of its connection. -/
theorem Destination.generations_eq_of_place {place : Nat} {x y : Session} (hs : s.Coherent)
    (h : s.Destination connection place x t) (hy : s.sessions[place]? = some y) :
    s.generations y.id.connection = y.id.generation + 1 := by
  have hplace := (h.coherent.newestPlaced?_eq_some_iff.mp h.found).1
  rw [h.getElem?_of_some hy] at hplace
  cases hplace
  rcases h.cases with ⟨rfl, hnewest⟩ | ⟨-, -, rfl⟩
  · obtain ⟨-, rfl, hgenerations⟩ := hs.newestPlaced?_eq_some_iff.mp hnewest
    exact hgenerations
  · have hlt := hs.mem_ids_iff.mp (mem_ids_of_mem (List.mem_of_getElem? hy))
    exact absurd hlt (Nat.lt_irrefl _)

/-! ### Every step -/

namespace Step

theorem settings_eq (h : s.Step e t) : t.settings = s.settings := by
  cases h with
  | staged hnewest hstage => rfl
  | opened hvacant hstart => rfl
  | repeated hduplicate => rfl
  | recorded hnew hdestination hconnection hkey => exact hdestination.settings_eq
  | resolved htarget => exact settings_touch ..
  | buffered htarget => exact settings_buffer ..

/-- An event opens at most the next session of its connection. -/
theorem ids_eq (h : s.Step e t) : t.ids = s.ids ∨ t.ids = s.ids ++ [s.nextId e.connection] := by
  cases h with
  | staged hnewest hstage => exact Or.inl (ids_updateSession _ fun _ ↦ rfl)
  | opened hvacant hstart => exact Or.inr (ids_openNext ..)
  | repeated hduplicate => exact Or.inl rfl
  | recorded hnew hdestination hconnection hkey =>
    rw [ids_withQuery]
    rcases hdestination.cases with ⟨rfl, -⟩ | ⟨-, rfl, -⟩
    · exact Or.inl rfl
    · exact Or.inr (ids_openNext ..)
  | resolved htarget => exact Or.inl (ids_touch ..)
  | buffered htarget => exact Or.inl (ids_congr (sessions_buffer ..))

theorem length_sessions_le (h : s.Step e t) : t.sessions.length ≤ s.sessions.length + 1 := by
  have hlength : ∀ u : Store, u.ids.length = u.sessions.length := fun _ ↦ List.length_map _
  rw [← hlength t, ← hlength s]
  rcases h.ids_eq with heq | heq
  · rw [heq]
    exact Nat.le_succ _
  · exact Nat.le_of_eq (by rw [heq, List.length_append, List.length_singleton])

/-- A connection loses no generation. -/
theorem generations_le (h : s.Step e t) (connection : ConnectionId) :
    s.generations connection ≤ t.generations connection := by
  unfold generations idsOf
  rcases h.ids_eq with heq | heq
  · exact Nat.le_of_eq (by rw [heq])
  · rw [heq, List.filter_append, List.length_append]
    exact Nat.le_add_right _ _

/-- What was given up stays counted. -/
theorem orphansEvicted_le (h : s.Step e t) :
    s.counts.orphansEvicted ≤ t.counts.orphansEvicted := by
  cases h with
  | staged hnewest hstage => exact Nat.le_refl _
  | opened hvacant hstart => exact Nat.le_refl _
  | repeated hduplicate => exact Nat.le_refl _
  | recorded hnew hdestination hconnection hkey =>
    rcases hdestination.cases with ⟨rfl, -⟩ | ⟨-, rfl, -⟩ <;> exact Nat.le_refl _
  | resolved htarget =>
    dsimp only
    rw [touch_counts]
    exact Nat.le_refl _
  | buffered htarget =>
    unfold buffer
    dsimp only
    split
    · exact Nat.le_refl _
    · split
      · exact Nat.le_succ _
      · exact Nat.le_refl _

/-- A record that is there stays as it is or is resolved, by a result that is meant for it. -/
theorem record_cases (h : s.Step e t) {r : RecordedQuery} (hr : s.record? key = some r) :
    t.record? key = some r ∨ ∃ result, e = .result result ∧
      s.target? result.connection result.command = some key ∧
      t.record? key = some { r with resolution := some result.resolution } := by
  unfold record? at hr ⊢
  cases h with
  | staged hnewest hstage => exact Or.inl hr
  | opened hvacant hstart => exact Or.inl hr
  | repeated hduplicate => exact Or.inl hr
  | @recorded query place x u hnew hdestination hconnection hkey =>
    have hid : (⟨query.connection, x.id.generation⟩ : SessionId) = x.id := by rw [← hconnection]
    have hne : (⟨x.id, query.command⟩ : RecordKey) ≠ key := by
      rintro rfl
      rw [hdestination.records_eq] at hkey
      exact hkey (mem_records_iff_record?.mpr ⟨_, hr⟩)
    left
    simp only [withQuery, hid, Std.ExtTreeMap.getElem?_insert, Std.compare_eq_iff_eq, hne, if_false]
    rw [hdestination.records_eq]
    exact hr
  | @resolved result target htarget =>
    simp only [records_touch, resolve, updateRecord, Std.ExtTreeMap.getElem?_modify,
      Std.compare_eq_iff_eq]
    by_cases hkey : target = key
    · subst hkey
      refine Or.inr ⟨result, rfl, htarget, ?_⟩
      rw [if_pos rfl, show s.advance.records = s.records from rfl, hr]
      rfl
    · rw [if_neg hkey]
      exact Or.inl hr
  | buffered htarget =>
    rw [records_buffer]
    exact Or.inl hr

end Step

/-- A record that was not there is that of the query that was issued, in the newest generation. -/
theorem Step.issued_of_not_mem (h : s.Step e t) (hnot : key ∉ s.records)
    (hkey : key ∈ t.records) : ∃ query, e = .issued query ∧
      key.session.connection = query.connection ∧ key.command = query.command ∧
      s.generations query.connection ≤ key.session.generation + 1 := by
  cases h with
  | staged hnewest hstage => exact absurd hkey hnot
  | opened hvacant hstart => exact absurd hkey hnot
  | repeated hduplicate => exact absurd hkey hnot
  | @recorded query place x u hnew hdestination hconnection hfree =>
    have hnotu : key ∉ u.records := by
      rw [hdestination.records_eq]
      exact hnot
    rcases Std.ExtTreeMap.mem_insert.mp hkey with heq | hold
    · rw [Std.compare_eq_iff_eq] at heq
      subst heq
      refine ⟨query, rfl, rfl, rfl, ?_⟩
      have hle := hdestination.generations_le query.connection
      rw [(hdestination.coherent.newestPlaced?_eq_some_iff.mp hdestination.found).2.2] at hle
      exact hle
    · exact absurd hold hnotu
  | resolved htarget =>
    rw [records_touch] at hkey
    exact absurd (Std.ExtTreeMap.mem_modify.mp hkey) hnot
  | buffered htarget =>
    rw [records_buffer] at hkey
    exact absurd hkey hnot

/-- A session stays at its place. A result may note on it that it was concerned again; all else
changes only on the newest session of a connection. -/
theorem Coherent.session_cases (hs : s.Coherent) (h : s.Step e t) {place : Nat} {x : Session}
    (hx : s.sessions[place]? = some x) :
    ∃ y, t.sessions[place]? = some y ∧ (y.apartFromLastSeen = x.apartFromLastSeen ∨
      s.generations x.id.connection = x.id.generation + 1) := by
  cases h with
  | @staged connection stage newest z hnewest hstage =>
    refine ⟨_, updateSession_getElem?_of_some newest _ hx, ?_⟩
    by_cases hplace : newest = place
    · subst hplace
      obtain ⟨hz, rfl, hgenerations⟩ := hs.newestPlaced?_eq_some_iff.mp hnewest
      rw [hx] at hz
      cases hz
      exact Or.inr hgenerations
    · exact Or.inl (by rw [if_neg hplace])
  | opened hvacant hstart => exact ⟨x, openNext_getElem?_of_some _ _ hx, Or.inl rfl⟩
  | repeated hduplicate => exact ⟨x, hx, Or.inl rfl⟩
  | @recorded query newest z u hnew hdestination hconnection hkey =>
    refine ⟨_, updateSession_getElem?_of_some newest (·.issued query.command u.lastNumber)
      (hdestination.getElem?_of_some hx), ?_⟩
    by_cases hplace : newest = place
    · subst hplace
      have hgenerations := hdestination.generations_eq_of_place hs.advance hx
      exact Or.inr hgenerations
    · exact Or.inl (by rw [if_neg hplace])
  | @resolved result target htarget =>
    obtain ⟨y, hy, hsame⟩ := touch_getElem?_of_some (s := s.advance.resolve target result)
      target.session hx
    exact ⟨y, hy, Or.inl hsame⟩
  | buffered htarget => exact ⟨x, by rw [sessions_buffer]; exact hx, Or.inl rfl⟩

end Store
end QueryWatch

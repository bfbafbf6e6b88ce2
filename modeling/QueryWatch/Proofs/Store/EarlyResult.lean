import QueryWatch.Proofs.Store.Portion

/-!
A result that comes before its query. `apartFromNumbers` is what a store holds, apart from the
numbers of events and from what is counted. A query and its result lead to the same there, whichever
comes first (`receive_receive_comm`).

If the query comes first, its record is the target of the result, which resolves it
(`Coherent.receive_issued_result`). If the result comes first it waits, as long as none is given up
for it, and the query finds it (`Coherent.receive_result_issued`). Either way the store is the one in
which the record was inserted with its resolution (`withAnswered`), in the session the query goes to.
The stores that the query comes to in the two orders differ in the numbers of their sessions only
(`SameSessions`), so this session is the same one, also where it has to be opened
(`SameSessions.destination`).
-/

set_option autoImplicit false

namespace QueryWatch.Store

variable {s t u : Store} {connection : ConnectionId} {query : Query} {result : QueryResult}
  {place other : Nat} {x y : Session}

/-- What a store holds, apart from the numbers of events and from what is counted. -/
def apartFromNumbers (s : Store) : Store :=
  { s with
    sessions := s.sessions.map (·.apartFromNumbers)
    records := s.records.map fun _ r ↦ r.apartFromNumber
    lastNumber := 0
    counts := {} }

/-! ### Stores with the same sessions -/

/-- Two stores have the same sessions, apart from the numbers of events. -/
structure SameSessions (s t : Store) : Prop where
  sessions : t.sessions.map (·.apartFromNumbers) = s.sessions.map (·.apartFromNumbers)
  placeOf : t.placeOf = s.placeOf
  newestPlaceOf : t.newestPlaceOf = s.newestPlaceOf

namespace SameSessions

theorem symm (h : s.SameSessions t) : t.SameSessions s :=
  ⟨h.sessions.symm, h.placeOf.symm, h.newestPlaceOf.symm⟩

theorem ids_eq (h : s.SameSessions t) : t.ids = s.ids := by
  have hids : ∀ u : Store, u.ids = (u.sessions.map (·.apartFromNumbers)).map (·.id) := by
    intro u
    rw [List.map_map]
    rfl
  rw [hids t, hids s, h.sessions]

theorem length_eq (h : s.SameSessions t) : t.sessions.length = s.sessions.length := by
  have hlength := congrArg List.length h.sessions
  rwa [List.length_map, List.length_map] at hlength

/-- The newest session of a connection stands at the same place. -/
theorem exists_newestPlaced? (h : s.SameSessions t)
    (hx : s.newestPlaced? connection = some (place, x)) :
    ∃ y, t.newestPlaced? connection = some (place, y) ∧
      y.apartFromNumbers = x.apartFromNumbers := by
  obtain ⟨found, hfound, hplaced⟩ := Option.bind_eq_some_iff.mp hx
  obtain ⟨z, hz, heq⟩ := Option.map_eq_some_iff.mp hplaced
  cases heq
  have hsession := congrArg (·[place]?) h.sessions
  simp only [List.getElem?_map, hz, Option.map_some, Option.map_eq_some_iff] at hsession
  obtain ⟨y, hy, hsame⟩ := hsession
  refine ⟨y, ?_, hsame⟩
  rw [newestPlaced?, h.newestPlaceOf, hfound, Option.bind_some, hy, Option.map_some]

theorem not_vacant (h : s.SameSessions t)
    (hx : s.newestPlaced? connection = some (place, x)) (hstage : x.stage = .started) :
    ¬t.Vacant connection := by
  intro hvacant
  obtain ⟨y, hy, hsame⟩ := h.exists_newestPlaced? hx
  have hstages : y.apartFromNumbers.stage = x.apartFromNumbers.stage := by rw [hsame]
  have hfinished : x.stage = .finished := hstages.symm.trans (hvacant place y hy)
  rw [hstage] at hfinished
  cases hfinished

/-- The next session of a connection is opened in both stores alike. -/
theorem openNext (h : s.SameSessions t) (connection : ConnectionId) (stage : SessionStage) :
    (s.openNext connection stage).SameSessions (t.openNext connection stage) := by
  have hnext : t.nextId connection = s.nextId connection := by
    rw [nextId, nextId, generations_congr h.ids_eq]
  refine ⟨?_, ?_, ?_⟩
  · simp only [Store.openNext, openSession, List.map_append, h.sessions, hnext]
    rfl
  · simp only [Store.openNext, openSession, h.placeOf, h.length_eq, hnext]
  · simp only [Store.openNext, openSession, h.newestPlaceOf, h.length_eq, hnext]

/-- A query goes to the same session in both stores. -/
theorem destination {s' t' : Store} (h : s.SameSessions t)
    (hs : s.Destination connection place x s') (ht : t.Destination connection other y t') :
    s'.SameSessions t' ∧ other = place ∧ y.apartFromNumbers = x.apartFromNumbers := by
  have hsame : s'.SameSessions t' := by
    rcases hs.cases with ⟨rfl, hx⟩ | ⟨hvacant, rfl, -⟩ <;>
      rcases ht.cases with ⟨rfl, hy⟩ | ⟨hvacant', rfl, -⟩
    · exact h
    · exact absurd hvacant' (h.not_vacant hx hs.underWay)
    · exact absurd hvacant (h.symm.not_vacant hy ht.underWay)
    · exact h.openNext connection .started
  obtain ⟨z, hz, hnumbers⟩ := hsame.exists_newestPlaced? hs.found
  rw [ht.found, Option.some.injEq, Prod.mk.injEq] at hz
  obtain ⟨rfl, rfl⟩ := hz
  exact ⟨hsame, rfl, hnumbers⟩

end SameSessions

/-! ### A query and its result -/

/-- The store in which a query is recorded in the session at a place with its result. -/
def withAnswered (s : Store) (place generation : Nat) (query : Query) (result : QueryResult) :
    Store :=
  { s with
    sessions := s.sessions.modify place (·.issued query.command s.lastNumber)
    records := s.records.insert ⟨⟨query.connection, generation⟩, query.command⟩
      { s.recordFor query generation with resolution := some result.resolution }
    orphans := s.otherOrphans query.connection query.command }

/-- Recording a query with its result makes no use of the numbers of events. -/
theorem apartFromNumbers_withAnswered (s : Store) (place generation : Nat) (query : Query)
    (result : QueryResult) : (s.withAnswered place generation query result).apartFromNumbers =
      s.apartFromNumbers.withAnswered place generation query result := by
  have hsessions :
      (s.sessions.modify place (·.issued query.command s.lastNumber)).map (·.apartFromNumbers) =
        (s.sessions.map (·.apartFromNumbers)).modify place (·.issued query.command 0) := by
    apply List.ext_getElem?
    intro i
    simp only [List.getElem?_map, List.getElem?_modify, Option.map_eq_map, Option.map_map]
    refine Option.map_congr fun x _ ↦ ?_
    by_cases hplace : place = i
    · simp only [Function.comp_apply, hplace, if_true]
      rfl
    · simp only [Function.comp_apply, hplace, if_false]
  have hrecords : (s.withAnswered place generation query result).records.map
      (fun _ r ↦ r.apartFromNumber) =
        (s.apartFromNumbers.withAnswered place generation query result).records := by
    apply Std.ExtTreeMap.ext_getElem?
    intro key
    simp only [withAnswered, apartFromNumbers, Std.ExtTreeMap.getElem?_map,
      Std.ExtTreeMap.getElem?_insert]
    split <;> rfl
  have hsplit : (s.withAnswered place generation query result).apartFromNumbers =
      { s.apartFromNumbers.withAnswered place generation query result with
        sessions := (s.sessions.modify place (·.issued query.command s.lastNumber)).map
          (·.apartFromNumbers)
        records := (s.withAnswered place generation query result).records.map
          fun _ r ↦ r.apartFromNumber } := rfl
  rw [hsplit, hsessions, hrecords]
  rfl

/-- In stores with the same sessions a query is recorded alike with its result. -/
theorem SameSessions.withAnswered (h : s.SameSessions t) (hsettings : t.settings = s.settings)
    (hrecords : t.records = s.records)
    (hothers : t.otherOrphans query.connection query.command =
      s.otherOrphans query.connection query.command) (place generation : Nat)
    (result : QueryResult) :
    (t.withAnswered place generation query result).apartFromNumbers =
      (s.withAnswered place generation query result).apartFromNumbers := by
  have hsame : t.apartFromNumbers = { s.apartFromNumbers with orphans := t.orphans } := by
    simp only [apartFromNumbers, h.sessions, h.placeOf, h.newestPlaceOf, hsettings, hrecords]
  rw [apartFromNumbers_withAnswered, apartFromNumbers_withAnswered, hsame]
  show ({ s.apartFromNumbers.withAnswered place generation query result with
    orphans := t.otherOrphans query.connection query.command } : Store) = _
  rw [hothers]
  rfl

theorem apartFromNumbers_touch (s : Store) (id : SessionId) :
    (s.touch id).apartFromNumbers = s.apartFromNumbers := by
  have hsessions : (s.touch id).sessions.map (·.apartFromNumbers) =
      s.sessions.map (·.apartFromNumbers) := map_touch s id fun _ _ ↦ rfl
  rw [touch_eq]
  simp only [apartFromNumbers, hsessions]

/-- Resolving the record of a query that was just recorded is recording it with its result. -/
theorem apartFromNumbers_resolve_withQuery (s : Store) (place generation : Nat) (query : Query)
    (result : QueryResult) :
    ((s.withQuery place generation query).advance.resolve
      ⟨⟨query.connection, generation⟩, query.command⟩ result).apartFromNumbers =
        (s.withAnswered place generation query result).apartFromNumbers := by
  have hrecords : (s.withQuery place generation query).records.modify
      ⟨⟨query.connection, generation⟩, query.command⟩
      (fun r ↦ { r with resolution := some result.resolution }) =
        (s.withAnswered place generation query result).records := modify_insert _
  simp only [apartFromNumbers, resolve, updateRecord, advance, hrecords]
  rfl

/-- A query whose result waits is recorded with it. -/
theorem apartFromNumbers_withQuery_of_orphan? (place generation : Nat)
    (hwaits : s.orphan? query.connection query.command = some result) :
    (s.withQuery place generation query).apartFromNumbers =
      (s.withAnswered place generation query result).apartFromNumbers := by
  have hrecord : s.recordFor query generation =
      { s.recordFor query generation with resolution := some result.resolution } := by
    rw [recordFor, hwaits, Option.map_some]
  simp only [apartFromNumbers, withQuery]
  rw [hrecord]
  rfl

/-! ### Both orders -/

/-- A query whose result has no target is no duplicate. -/
theorem Coherent.isDuplicate_eq_false_of_target? (hs : s.Coherent)
    (htarget : s.target? query.connection query.command = none) : s.isDuplicate query = false := by
  rw [Bool.eq_false_iff, ne_eq, isDuplicate_iff]
  rintro ⟨x, hx, hkey⟩
  obtain ⟨-, hconnection, hgenerations⟩ := hs.newestSession?_eq_some_iff.mp hx
  have hid : x.id = ⟨query.connection, x.id.generation⟩ := by rw [← hconnection]
  rw [hid] at hkey
  rw [hs.target?_of_newest hkey hgenerations] at htarget
  cases htarget

/-- A query that is issued before its result is recorded, and the result resolves the record. -/
theorem Coherent.receive_issued_result (hs : s.Coherent)
    (hof : result.isOf query.connection query.command = true)
    (htarget : s.target? query.connection query.command = none) :
    ∃ place x t, s.advance.Destination query.connection place x t ∧
      ((s.receive (.issued query)).receive (.result result)).apartFromNumbers =
        (t.withAnswered place x.id.generation query result).apartFromNumbers := by
  obtain ⟨hconnection, hcommand⟩ := isOf_iff.mp hof
  have hnew := hs.isDuplicate_eq_false_of_target? htarget
  obtain ⟨place, x, change, t, -, hdestination, hfree, -, hissued⟩ :=
    hs.applyIssued_of_not_isDuplicate hnew
  refine ⟨place, x, t, hdestination, ?_⟩
  have hstore : s.receive (.issued query) = t.withQuery place x.id.generation query := by
    simp only [Store.receive, Store.apply, hissued]
  have hrecorded : (t.withQuery place x.id.generation query).Coherent :=
    hdestination.coherent.withQuery hdestination.found hfree
  obtain ⟨-, -, hgenerations⟩ :=
    hdestination.coherent.newestPlaced?_eq_some_iff.mp hdestination.found
  have hresolves : (t.withQuery place x.id.generation query).target? result.connection
      result.command = some ⟨⟨query.connection, x.id.generation⟩, query.command⟩ := by
    rw [hconnection, hcommand]
    refine hrecorded.target?_of_newest Std.ExtTreeMap.mem_insert_self ?_
    rw [generations_congr (ids_withQuery ..)]
    exact hgenerations
  have hresult := applyResult_of_target? hresolves
  rw [hstore]
  simp only [Store.receive, Store.apply, hresult]
  exact (apartFromNumbers_touch ..).trans (apartFromNumbers_resolve_withQuery ..)

/-- A result that has no target waits behind the others if there is room, or if one of its command
waits already. -/
theorem Waiting.orphans_receive_result (hw : s.Waiting)
    (hcapacity : 0 < s.settings.orphanCapacity)
    (htarget : s.target? result.connection result.command = none)
    (hroom : s.orphans.length < s.settings.orphanCapacity ∨
      ∃ o ∈ s.orphans, o.isOf result.connection result.command = true) :
    (s.receive (.result result)).orphans =
      s.otherOrphans result.connection result.command ++ [result] := by
  have hfits : (s.otherOrphans result.connection result.command).length <
      s.settings.orphanCapacity := by
    rcases hroom with hless | ⟨o, ho, hof⟩
    · exact Nat.lt_of_le_of_lt List.length_eraseP_le hless
    · have hpos := List.length_pos_of_mem ho
      have hbound := hw.bounded
      rw [otherOrphans, List.length_eraseP_of_mem ho hof]
      omega
  have hkept := (orphansEvicted_buffer_eq_iff s.advance result).mpr (Or.inr hfits)
  simp only [receive, apply, applyResult_of_target?_eq_none htarget]
  exact orphans_buffer_of_kept hcapacity hkept

/-- A result that comes before its query waits, if none is given up for it, and the query is recorded
with it. -/
theorem Coherent.receive_result_issued (hs : s.Coherent) (hw : s.Waiting)
    (hcapacity : 0 < s.settings.orphanCapacity)
    (hof : result.isOf query.connection query.command = true)
    (htarget : s.target? query.connection query.command = none)
    (hroom : s.orphans.length < s.settings.orphanCapacity ∨
      ∃ o ∈ s.orphans, o.isOf query.connection query.command = true) :
    ∃ place x t, (s.receive (.result result)).advance.Destination query.connection place x t ∧
      t.otherOrphans query.connection query.command =
        s.otherOrphans query.connection query.command ∧
      ((s.receive (.result result)).receive (.issued query)).apartFromNumbers =
        (t.withAnswered place x.id.generation query result).apartFromNumbers := by
  obtain ⟨hconnection, hcommand⟩ := isOf_iff.mp hof
  have hnone : s.target? result.connection result.command = none := by
    rw [hconnection, hcommand]
    exact htarget
  have hwaiting : (s.receive (.result result)).orphans =
      s.otherOrphans query.connection query.command ++ [result] := by
    rw [hw.orphans_receive_result hcapacity hnone (by rw [hconnection, hcommand]; exact hroom),
      hconnection, hcommand]
  have hothers : ∀ o ∈ s.otherOrphans query.connection query.command,
      ¬o.isOf query.connection query.command = true := by
    intro o ho
    rw [otherOrphans_eq_filter hw.distinct, List.mem_filter, Bool.not_eq_true'] at ho
    rw [ho.2]
    exact Bool.false_ne_true
  have hstill : (s.receive (.result result)).target? query.connection query.command = none :=
    hs.target?_eq_none_of_step (hs.step_receive _) (hs.receive _) nofun htarget
  have hnew := (hs.receive (.result result)).isDuplicate_eq_false_of_target? hstill
  obtain ⟨place, x, change, t, -, hdestination, -, -, hissued⟩ :=
    (hs.receive (.result result)).applyIssued_of_not_isDuplicate hnew
  have horphans : t.orphans = s.otherOrphans query.connection query.command ++ [result] :=
    hdestination.orphans_eq.trans hwaiting
  refine ⟨place, x, t, hdestination, ?_, ?_⟩
  · rw [otherOrphans, horphans, List.eraseP_append_right _ hothers]
    simp [hof]
  · have hwaits : t.orphan? query.connection query.command = some result := by
      rw [orphan?, horphans, List.find?_append, List.find?_eq_none.mpr hothers, Option.none_or]
      simp [hof]
    have hstore : (s.receive (.result result)).receive (.issued query) =
        t.withQuery place x.id.generation query := by
      show ((s.receive (.result result)).apply (.issued query)).2 = _
      simp only [Store.apply, hissued]
    rw [hstore]
    exact apartFromNumbers_withQuery_of_orphan? place x.id.generation hwaits

/-- Where a query was recorded with its result, the newest record of its command is that of the
query, resolved by the result. -/
theorem Destination.newestRecord?_of_withAnswered
    (h : s.Destination query.connection place x t) (hu : u.Coherent)
    (hanswered : u.apartFromNumbers =
      (t.withAnswered place x.id.generation query result).apartFromNumbers) :
    ∃ r, u.newestRecord? query.connection query.command = some r ∧ r.query = query ∧
      r.resolution = some result.resolution := by
  obtain ⟨-, -, hgenerations⟩ := h.coherent.newestPlaced?_eq_some_iff.mp h.found
  have hrecord := congrArg
    (·.records[(⟨⟨query.connection, x.id.generation⟩, query.command⟩ : RecordKey)]?) hanswered
  simp only [apartFromNumbers, withAnswered, Std.ExtTreeMap.getElem?_map,
    Std.ExtTreeMap.getElem?_insert_self, Option.map_some, Option.map_eq_some_iff] at hrecord
  obtain ⟨r, hr, hsame⟩ := hrecord
  have hids : u.ids = t.ids := by
    have hsessions : (t.withAnswered place x.id.generation query result).SameSessions u :=
      ⟨congrArg (·.sessions) hanswered, congrArg (·.placeOf) hanswered,
        congrArg (·.newestPlaceOf) hanswered⟩
    rw [hsessions.ids_eq]
    exact ids_updateSession place fun _ ↦ rfl
  have htarget := hu.target?_of_newest (mem_records_iff_record?.mpr ⟨r, hr⟩)
    ((generations_congr hids _).trans hgenerations)
  refine ⟨r, ?_, congrArg (·.query) hsame, congrArg (·.resolution) hsame⟩
  rw [newestRecord?, (hu.target?_eq_some_iff.mp htarget).1]
  exact hr

/-- In every store that a run reaches, a query and a result that has no record to resolve lead to the
same sessions, records and waiting results, whichever of the two comes first, as long as no result is
given up: there is room for the result, or one of its command waits already. Either way the newest
record of the command is that of the query, resolved by the result, and no result of the command
waits any more. -/
theorem receive_receive_comm (settings : StoreSettings) (operations : List Operation)
    (query : Query) (result : QueryResult) (hcapacity : 0 < settings.orphanCapacity)
    (hof : result.isOf query.connection query.command = true) :
    let s := (empty settings).run operations
    s.target? query.connection query.command = none →
    (s.orphans.length < settings.orphanCapacity ∨
      ∃ o ∈ s.orphans, o.isOf query.connection query.command = true) →
    let late := (s.receive (.issued query)).receive (.result result)
    let early := (s.receive (.result result)).receive (.issued query)
    early.apartFromNumbers = late.apartFromNumbers ∧
      late.orphans = s.otherOrphans query.connection query.command ∧
      ∃ r, late.newestRecord? query.connection query.command = some r ∧ r.query = query ∧
        r.resolution = some result.resolution := by
  intro s htarget hroom late early
  have hs : s.Coherent := (coherent_empty settings).run operations
  have hw : s.Waiting := (waiting_empty settings).run (coherent_empty settings) operations
  have hsettings : s.settings = settings := (coherent_empty settings).settings_run operations
  rw [← hsettings] at hcapacity hroom
  obtain ⟨place, x, t, hdestination, hlate⟩ := hs.receive_issued_result hof htarget
  obtain ⟨other, y, u, hdestination', hothers, hearly⟩ :=
    hs.receive_result_issued hw hcapacity hof htarget hroom
  have hbuffered : s.receive (.result result) = (s.advance.buffer result).2 := by
    obtain ⟨hconnection, hcommand⟩ := isOf_iff.mp hof
    rw [← hconnection, ← hcommand] at htarget
    simp only [receive, apply, applyResult_of_target?_eq_none htarget]
  have hsame : s.advance.SameSessions (s.receive (.result result)).advance := by
    rw [hbuffered, buffer_eq]
    exact ⟨rfl, rfl, rfl⟩
  obtain ⟨hsessions, rfl, hnumbers⟩ := hsame.destination hdestination hdestination'
  have hgeneration : y.apartFromNumbers.id.generation = x.apartFromNumbers.id.generation := by
    rw [hnumbers]
  have hsettings' : u.settings = t.settings := by
    rw [hdestination'.settings_eq, hdestination.settings_eq, hbuffered]
    exact settings_buffer ..
  have hrecords : u.records = t.records := by
    rw [hdestination'.records_eq, hdestination.records_eq, hbuffered]
    exact records_buffer ..
  have horphans : t.otherOrphans query.connection query.command =
      s.otherOrphans query.connection query.command :=
    congrArg (List.eraseP _) hdestination.orphans_eq
  refine ⟨?_, ?_, ?_⟩
  · rw [hearly, hlate, show y.id.generation = x.id.generation from hgeneration]
    exact hsessions.withAnswered hsettings' hrecords (hothers.trans horphans.symm) ..
  · exact (congrArg (·.orphans) hlate).trans horphans
  · exact hdestination.newestRecord?_of_withAnswered ((hs.receive _).receive _) hlate

/-- A connection was used three times, and a command that had its result in the first session is
issued anew after the last one finished, while a result for it waits: the next session is opened and
the latest result counts, whether it comes before the query or after it. -/
theorem receive_receive_comm_reused :
    let first : Query := ⟨"5", 1, none, "SELECT 1", [], true⟩
    let operations : List Operation :=
      [.event (.issued first), .event (.result ⟨"5", 1, .ok, none, 40⟩),
        .event (.session "5" .finished), .event (.session "5" .started),
        .event (.session "5" .finished), .event (.result ⟨"5", 1, .ok, none, 41⟩)]
    let query : Query := ⟨"5", 1, none, "SELECT 2", [], true⟩
    let result : QueryResult := ⟨"5", 1, .error, some "deadlock", 42⟩
    let s := (empty {}).run operations
    let late := (s.receive (.issued query)).receive (.result result)
    let early := (s.receive (.result result)).receive (.issued query)
    late.sessions.length = 3 ∧ early.apartFromNumbers = late.apartFromNumbers ∧
      late.orphans = [] := by
  intro first operations query result s late early
  obtain ⟨hsame, horphans, -⟩ := receive_receive_comm {} operations query result
    (by decide) (by decide) (by decide) (by decide)
  exact ⟨by decide, hsame, horphans.trans (by decide)⟩

end QueryWatch.Store

import QueryWatch.Proofs.Store.Waiting

/-!
What a store holds of one connection: its sessions by their generations, its records, and its
results that wait, all apart from the numbers of events (`Store.portion`). Each part of an update
changes the portion of one connection, in a way that depends on that portion only, and leaves those
of all others (`portion_updateSession`, `portion_openNext`, `portion_resolve`, `portion_buffer`,
`portion_withQuery`). What an event looks up is a matter of the portion of its connection as well:
coherent stores with the same portion agree on its generations (`generations_eq_of_portion`), on its
newest session, on what is a duplicate and on what a result resolves.
-/

set_option autoImplicit false

namespace QueryWatch

/-- A session, apart from the numbers of the events that opened it and that last concerned it. -/
def Session.apartFromNumbers (x : Session) : Session := { x with firstSeen := 0, lastSeen := 0 }

/-- A record, apart from the number of the event that issued it. -/
def RecordedQuery.apartFromNumber (r : RecordedQuery) : RecordedQuery := { r with received := 0 }

/-- What is held of one connection, by its generations and commands. -/
@[ext]
structure Portion where
  settings : StoreSettings
  session? : Nat → Option Session
  record? : Nat → CommandId → Option RecordedQuery
  orphans : List QueryResult

namespace Portion

/-- A session is opened, or is changed. -/
def putSession (p : Portion) (x : Session) : Portion :=
  { p with session? := fun generation ↦
      if x.id.generation = generation then some x else p.session? generation }

/-- A record is resolved. -/
def resolve (p : Portion) (generation : Nat) (command : CommandId) (result : QueryResult) :
    Portion :=
  { p with record? := fun other m ↦
      if generation = other ∧ command = m then
        (p.record? other m).map fun r ↦ { r with resolution := some result.resolution }
      else p.record? other m }

/-- A result waits behind the others, if results may wait. -/
def buffer (p : Portion) (result : QueryResult) : Portion :=
  if p.settings.orphanCapacity = 0 then p
  else { p with orphans :=
      p.orphans.eraseP (·.isOf result.connection result.command) ++ [result] }

/-- A query is recorded in a session, with the result that waits for it. -/
def withQuery (p : Portion) (x : Session) (query : Query) : Portion :=
  { p.putSession (x.issued query.command 0).apartFromNumbers with
    record? := fun generation command ↦
      if x.id.generation = generation ∧ query.command = command then
        some
          { query
            generation
            resolution :=
              (p.orphans.find? (·.isOf query.connection query.command)).map (·.resolution)
            expanded := p.settings.expandByDefault
            received := 0 }
      else p.record? generation command
    orphans := p.orphans.eraseP (·.isOf query.connection query.command) }

/-- The numbers of a session play no part in how a query is recorded in it. -/
theorem withQuery_congr (p : Portion) {x y : Session}
    (h : x.apartFromNumbers = y.apartFromNumbers) (query : Query) :
    p.withQuery x query = p.withQuery y query := by
  have hid : x.apartFromNumbers.id = y.apartFromNumbers.id := by rw [h]
  have hissued : (x.apartFromNumbers.issued query.command 0).apartFromNumbers =
      (y.apartFromNumbers.issued query.command 0).apartFromNumbers := by rw [h]
  have hid' : x.id = y.id := hid
  have hissued' : (x.issued query.command 0).apartFromNumbers =
      (y.issued query.command 0).apartFromNumbers := hissued
  rw [withQuery, withQuery, hid', hissued']

end Portion

namespace Store

variable {s t : Store} {connection : ConnectionId} {command : CommandId} {key : RecordKey}

/-- What a store holds of a connection, apart from the numbers of events. -/
def portion (s : Store) (connection : ConnectionId) : Portion where
  settings := s.settings
  session? generation := (s.session? ⟨connection, generation⟩).map (·.apartFromNumbers)
  record? generation command :=
    (s.record? ⟨⟨connection, generation⟩, command⟩).map (·.apartFromNumber)
  orphans := s.orphans.filter (·.connection = connection)

/-! ### Sessions -/

theorem session?_updateSession (h : s.Indexed) {place : Nat} {x : Session} {f : Session → Session}
    (hplace : s.sessions[place]? = some x) (id : SessionId) :
    (s.updateSession place f).session? id = if x.id = id then some (f x) else s.session? id := by
  have hplaced : s.placeOf[id]? = some place ↔ x.id = id := by
    rw [h.placed, ids_getElem?, hplace, Option.map_some, Option.some.injEq]
  show (s.placeOf[id]?.bind fun other ↦ (s.updateSession place f).sessions[other]?) = _
  by_cases hid : x.id = id
  · rw [hplaced.mpr hid, Option.bind_some, updateSession_getElem?_of_some place f hplace,
      if_pos rfl, if_pos hid]
  · rw [if_neg hid, session?]
    refine Option.bind_congr fun other hother ↦ ?_
    have hne : place ≠ other := by
      rintro rfl
      exact hid (hplaced.mp hother)
    rw [updateSession_getElem?]
    simp [hne]

theorem session?_openNext (h : s.Indexed) (connection : ConnectionId) (stage : SessionStage)
    (id : SessionId) : (s.openNext connection stage).session? id =
      if s.nextId connection = id then
        some ⟨s.nextId connection, stage, [], 0, s.lastNumber, s.lastNumber⟩
      else s.session? id := by
  unfold session?
  rw [show (s.openNext connection stage).placeOf[id]? = _ from
    placeOf_openSession s (s.nextId connection) id stage]
  split
  · rw [Option.bind_some, openNext_getElem?]
  · refine Option.bind_congr fun place hplace ↦ ?_
    exact List.getElem?_append_left (h.placeOf_lt hplace)

theorem portion_updateSession (h : s.Indexed) {place : Nat} {x : Session} {f : Session → Session}
    (hplace : s.sessions[place]? = some x) (hid : (f x).id = x.id) (connection : ConnectionId) :
    (s.updateSession place f).portion connection =
      if x.id.connection = connection then
        (s.portion connection).putSession (f x).apartFromNumbers
      else s.portion connection := by
  have hsession := session?_updateSession h (f := f) hplace
  split
  next hsame =>
    subst hsame
    refine Portion.ext rfl (funext fun generation ↦ ?_) rfl rfl
    show Option.map _ ((s.updateSession place f).session? _) =
      if (f x).id.generation = generation then _ else _
    rw [hsession, hid]
    by_cases hgeneration : x.id.generation = generation
    · rw [if_pos hgeneration, if_pos (by rw [← hgeneration])]
      rfl
    · rw [if_neg hgeneration, if_neg fun heq ↦ hgeneration (congrArg (·.generation) heq)]
      rfl
  next hother =>
    refine Portion.ext rfl (funext fun generation ↦ ?_) rfl rfl
    show Option.map _ ((s.updateSession place f).session? _) = _
    rw [hsession, if_neg fun heq ↦ hother (congrArg (·.connection) heq)]
    rfl

theorem portion_openNext (h : s.Indexed) (connection : ConnectionId) (stage : SessionStage)
    (other : ConnectionId) : (s.openNext connection stage).portion other =
      if connection = other then
        (s.portion other).putSession ⟨s.nextId connection, stage, [], 0, 0, 0⟩
      else s.portion other := by
  have hsession := session?_openNext h connection stage
  split
  next hsame =>
    subst hsame
    refine Portion.ext rfl (funext fun generation ↦ ?_) rfl rfl
    show Option.map _ ((s.openNext connection stage).session? _) =
      if s.generations connection = generation then _ else _
    rw [hsession]
    by_cases hgeneration : s.generations connection = generation
    · rw [if_pos hgeneration, if_pos (by rw [nextId, hgeneration])]
      rfl
    · rw [if_neg hgeneration, if_neg fun heq ↦ hgeneration (congrArg (·.generation) heq)]
      rfl
  next hother =>
    refine Portion.ext rfl (funext fun generation ↦ ?_) rfl rfl
    show Option.map _ ((s.openNext connection stage).session? _) = _
    rw [hsession, if_neg fun heq ↦ hother (congrArg (·.connection) heq)]
    rfl

theorem portion_touch (s : Store) (id : SessionId) (connection : ConnectionId) :
    (s.touch id).portion connection = s.portion connection := by
  unfold touch
  split
  · rfl
  next place _ =>
    refine Portion.ext rfl (funext fun generation ↦ ?_) rfl rfl
    show Option.map _ (Option.bind _ fun other ↦ (s.updateSession place _).sessions[other]?) =
      Option.map _ (Option.bind _ _)
    rw [Option.map_bind, Option.map_bind]
    refine Option.bind_congr fun other _ ↦ ?_
    rw [Function.comp_apply, Function.comp_apply, updateSession_getElem?, Option.map_map]
    refine Option.map_congr fun x _ ↦ ?_
    rw [Function.comp_apply]
    split <;> rfl

/-! ### Records and results that wait -/

theorem portion_resolve (s : Store) (key : RecordKey) (result : QueryResult)
    (connection : ConnectionId) : (s.resolve key result).portion connection =
      if key.session.connection = connection then
        (s.portion connection).resolve key.session.generation key.command result
      else s.portion connection := by
  have hrecord : ∀ generation command,
      (s.resolve key result).record? ⟨⟨connection, generation⟩, command⟩ =
        if key = ⟨⟨connection, generation⟩, command⟩ then
          (s.record? ⟨⟨connection, generation⟩, command⟩).map fun r ↦
            { r with resolution := some result.resolution }
        else s.record? ⟨⟨connection, generation⟩, command⟩ := by
    intro generation command
    simp only [record?, resolve, updateRecord, Std.ExtTreeMap.getElem?_modify,
      Std.compare_eq_iff_eq]
    split
    next hkey => rw [hkey]
    next => rfl
  split
  next hsame =>
    subst hsame
    refine Portion.ext rfl rfl (funext fun generation ↦ funext fun command ↦ ?_) rfl
    show Option.map _ ((s.resolve key result).record? _) =
      if key.session.generation = generation ∧ key.command = command then _ else _
    rw [hrecord]
    by_cases hkey : key.session.generation = generation ∧ key.command = command
    · obtain ⟨rfl, rfl⟩ := hkey
      rw [if_pos rfl, if_pos ⟨rfl, rfl⟩]
      show Option.map _ (Option.map _ _) = Option.map _ (Option.map _ _)
      rw [Option.map_map, Option.map_map]
      rfl
    · rw [if_neg hkey, if_neg fun heq ↦ hkey ⟨by rw [heq], by rw [heq]⟩]
      rfl
  next hother =>
    refine Portion.ext rfl rfl (funext fun generation ↦ funext fun command ↦ ?_) rfl
    show Option.map _ ((s.resolve key result).record? _) = _
    rw [hrecord, if_neg fun heq ↦ hother (by rw [heq])]
    rfl

/-- Taking out the result of a command takes it out of those of its connection. -/
theorem filter_connection_otherOrphans (s : Store) (other : ConnectionId) (command : CommandId)
    (connection : ConnectionId) :
    (s.otherOrphans other command).filter (·.connection = connection) =
      if other = connection then
        (s.orphans.filter (·.connection = connection)).eraseP (·.isOf other command)
      else s.orphans.filter (·.connection = connection) := by
  unfold otherOrphans
  induction s.orphans with
  | nil => simp
  | cons o rest ih =>
    by_cases ho : o.isOf other command = true
    · obtain ⟨rfl, rfl⟩ := isOf_iff.mp ho
      rw [List.eraseP_cons, ho, cond_true]
      by_cases hsame : o.connection = connection
      · simp [hsame, QueryResult.isOf]
      · simp [hsame]
    · rw [Bool.not_eq_true] at ho
      rw [List.eraseP_cons, ho, cond_false]
      by_cases hsame : o.connection = connection
      · rw [List.filter_cons_of_pos (by simpa using hsame),
          List.filter_cons_of_pos (by simpa using hsame), ih, List.eraseP_cons, ho, cond_false]
        split <;> rfl
      · rw [List.filter_cons_of_neg (by simpa using hsame),
          List.filter_cons_of_neg (by simpa using hsame), ih]

theorem orphan?_eq_find?_portion (s : Store) (connection : ConnectionId) (command : CommandId) :
    s.orphan? connection command =
      (s.portion connection).orphans.find? (·.isOf connection command) := by
  unfold orphan? portion
  rw [List.find?_filter]
  refine congrArg (List.find? · s.orphans) (funext fun o ↦ ?_)
  rw [Bool.eq_iff_iff]
  simp only [decide_eq_true_eq, isOf_iff]
  tauto

/-- A result that waits changes the portion of its connection, if none is given up for it. -/
theorem portion_buffer {result : QueryResult}
    (hkept : (s.buffer result).2.counts.orphansEvicted = s.counts.orphansEvicted)
    (connection : ConnectionId) : (s.buffer result).2.portion connection =
      if result.connection = connection then (s.portion connection).buffer result
      else s.portion connection := by
  have hrest : (s.buffer result).2.portion connection =
      { s.portion connection with
        orphans := (s.buffer result).2.orphans.filter (·.connection = connection) } := by
    rw [buffer_eq]
    rfl
  have hwaits : (s.portion connection).buffer result =
      if s.settings.orphanCapacity = 0 then s.portion connection
      else { s.portion connection with
        orphans := (s.portion connection).orphans.eraseP
          (·.isOf result.connection result.command) ++ [result] } := rfl
  rw [hrest, hwaits]
  by_cases hzero : s.settings.orphanCapacity = 0
  · rw [orphans_buffer]
    dsimp only
    rw [if_pos hzero, if_pos hzero, ite_self]
    rfl
  · rw [orphans_buffer_of_kept (Nat.pos_of_ne_zero hzero) hkept, List.filter_append,
      filter_connection_otherOrphans, if_neg hzero]
    by_cases hsame : result.connection = connection
    · simp [hsame, portion]
    · simp [hsame, portion]

/-- A query that is recorded changes the portion of its connection. -/
theorem portion_withQuery (h : s.Indexed) {place : Nat} {x : Session} {query : Query}
    (hplace : s.sessions[place]? = some x) (hconnection : x.id.connection = query.connection)
    (connection : ConnectionId) :
    (s.withQuery place x.id.generation query).portion connection =
      if query.connection = connection then (s.portion connection).withQuery x query
      else s.portion connection := by
  have hsessions := portion_updateSession h (f := (·.issued query.command s.lastNumber)) hplace rfl
    connection
  have hrecord : ∀ generation command,
      (s.withQuery place x.id.generation query).record? ⟨⟨connection, generation⟩, command⟩ =
        if query.connection = connection ∧ x.id.generation = generation ∧ query.command = command
        then some (s.recordFor query x.id.generation)
        else s.record? ⟨⟨connection, generation⟩, command⟩ := by
    intro generation command
    simp only [record?, withQuery, Std.ExtTreeMap.getElem?_insert, Std.compare_eq_iff_eq,
      RecordKey.mk.injEq, SessionId.mk.injEq, and_assoc]
  have horphans := filter_connection_otherOrphans s query.connection query.command connection
  rw [hconnection] at hsessions
  split
  next hsame =>
    rw [if_pos hsame] at hsessions horphans
    have hsession := congrArg Portion.session? hsessions
    refine Portion.ext rfl hsession
      (funext fun generation ↦ funext fun command ↦ ?_) horphans
    show Option.map _ ((s.withQuery place x.id.generation query).record? _) =
      if x.id.generation = generation ∧ query.command = command then _ else _
    rw [hrecord]
    by_cases hkey : x.id.generation = generation ∧ query.command = command
    · rw [if_pos ⟨hsame, hkey⟩, if_pos hkey, Option.map_some, recordFor, orphan?_eq_find?_portion,
        hsame, hkey.1]
      rfl
    · rw [if_neg fun hall ↦ hkey hall.2, if_neg hkey]
      rfl
  next hother =>
    rw [if_neg hother] at hsessions horphans
    have hsession := congrArg Portion.session? hsessions
    refine Portion.ext rfl hsession
      (funext fun generation ↦ funext fun command ↦ ?_) horphans
    show Option.map _ ((s.withQuery place x.id.generation query).record? _) = _
    rw [hrecord, if_neg fun hall ↦ hother hall.1]
    rfl

/-! ### Stores with the same portion -/

section Agreement

variable (hs : s.Coherent) (ht : t.Coherent) (h : t.portion connection = s.portion connection)

include h in
theorem map_session?_eq_of_portion (generation : Nat) :
    (t.session? ⟨connection, generation⟩).map (·.apartFromNumbers) =
      (s.session? ⟨connection, generation⟩).map (·.apartFromNumbers) :=
  congrFun (congrArg Portion.session? h) generation

include h in
theorem map_record?_eq_of_portion (generation : Nat) (command : CommandId) :
    (t.record? ⟨⟨connection, generation⟩, command⟩).map (·.apartFromNumber) =
      (s.record? ⟨⟨connection, generation⟩, command⟩).map (·.apartFromNumber) :=
  congrFun (congrFun (congrArg Portion.record? h) generation) command

include h in
theorem mem_records_iff_of_portion (generation : Nat) (command : CommandId) :
    ⟨⟨connection, generation⟩, command⟩ ∈ t.records ↔
      ⟨⟨connection, generation⟩, command⟩ ∈ s.records := by
  have hrecord := congrArg Option.isSome (map_record?_eq_of_portion h generation command)
  simp only [Option.isSome_map, record?] at hrecord
  rw [Std.ExtTreeMap.mem_iff_isSome_getElem?, Std.ExtTreeMap.mem_iff_isSome_getElem?, hrecord]

include h in
theorem isPending_eq_of_portion (generation : Nat) (command : CommandId) :
    t.isPending ⟨⟨connection, generation⟩, command⟩ =
      s.isPending ⟨⟨connection, generation⟩, command⟩ := by
  have hany : ∀ r : Option RecordedQuery,
      r.any (·.isPending) = (r.map (·.apartFromNumber)).any (·.isPending) := by
    intro r
    cases r <;> rfl
  rw [isPending, hany, map_record?_eq_of_portion h, ← hany]
  rfl

include h in
theorem orphan?_eq_of_portion (command : CommandId) :
    t.orphan? connection command = s.orphan? connection command := by
  rw [orphan?_eq_find?_portion, orphan?_eq_find?_portion, h]

/-- The generations of a connection are those that have a session. -/
theorem Indexed.isSome_session?_iff (hs : s.Indexed) (generation : Nat) :
    (s.session? ⟨connection, generation⟩).isSome = true ↔ generation < s.generations connection := by
  have hmem : (⟨connection, generation⟩ : SessionId) ∈ s.ids ↔ _ := hs.mem_ids_iff
  rw [← hmem, Option.isSome_iff_exists, ids, List.mem_map]
  simp only [hs.session?_eq_some_iff]

include hs ht h in
theorem Coherent.generations_eq_of_portion :
    t.generations connection = s.generations connection := by
  have hiff : ∀ generation,
      generation < t.generations connection ↔ generation < s.generations connection := by
    intro generation
    have hsession := congrArg Option.isSome (map_session?_eq_of_portion h generation)
    rw [Option.isSome_map, Option.isSome_map] at hsession
    rw [← ht.isSome_session?_iff, ← hs.isSome_session?_iff, hsession]
  have hle := hiff (s.generations connection)
  have hge := hiff (t.generations connection)
  omega

include hs ht h in
/-- If one of the stores has a newest session of the connection, the other has the same one. -/
theorem Coherent.exists_newestPlaced?_of_portion {place : Nat} {x : Session}
    (hx : s.newestPlaced? connection = some (place, x)) :
    ∃ other y, t.newestPlaced? connection = some (other, y) ∧
      y.apartFromNumbers = x.apartFromNumbers := by
  obtain ⟨hplace, rfl, hgenerations⟩ := hs.newestPlaced?_eq_some_iff.mp hx
  have hfound := hs.session?_eq_some_iff.mpr ⟨List.mem_of_getElem? hplace, rfl⟩
  have hsession := map_session?_eq_of_portion h x.id.generation
  rw [show s.session? ⟨x.id.connection, x.id.generation⟩ = some x from hfound, Option.map_some,
    Option.map_eq_some_iff] at hsession
  obtain ⟨y, hy, hsame⟩ := hsession
  obtain ⟨hmem, hid⟩ := ht.session?_eq_some_iff.mp hy
  obtain ⟨other, hother⟩ := List.mem_iff_getElem?.mp hmem
  refine ⟨other, y, ht.newestPlaced?_eq_some_iff.mpr ⟨hother, by rw [hid], ?_⟩, hsame⟩
  rw [hs.generations_eq_of_portion ht h, hgenerations, hid]

include hs ht h in
theorem Coherent.target?_eq_of_portion (command : CommandId) :
    t.target? connection command = s.target? connection command := by
  have hnewest : t.newestKey? connection command = s.newestKey? connection command := by
    rw [ht.newestKey?_eq, hs.newestKey?_eq, hs.generations_eq_of_portion ht h]
    simp only [mem_records_iff_of_portion h]
  refine Option.ext fun key ↦ ?_
  rw [ht.target?_eq_some_iff, hs.target?_eq_some_iff, hnewest, hs.generations_eq_of_portion ht h]
  refine and_congr_right fun hkey ↦ or_congr_right ?_
  obtain ⟨-, rfl, -, -⟩ := hs.newestKey?_eq_some_iff.mp hkey
  rw [show key = ⟨⟨key.session.connection, key.session.generation⟩, key.command⟩ from rfl,
    isPending_eq_of_portion h]

include hs ht h in
theorem Coherent.isDuplicate_of_portion {query : Query} (hquery : query.connection = connection)
    (hduplicate : s.isDuplicate query = true) : t.isDuplicate query = true := by
  subst hquery
  obtain ⟨x, hx, hkey⟩ := (isDuplicate_iff s query).mp hduplicate
  obtain ⟨⟨place, x⟩, hplaced, rfl⟩ := Option.map_eq_some_iff.mp hx
  obtain ⟨-, hconnection, -⟩ := hs.newestPlaced?_eq_some_iff.mp hplaced
  obtain ⟨other, y, hy, hsame⟩ := hs.exists_newestPlaced?_of_portion ht h hplaced
  have hid : y.apartFromNumbers.id = x.apartFromNumbers.id := by rw [hsame]
  refine (isDuplicate_iff t query).mpr ⟨y, by rw [newestSession?, hy]; rfl, ?_⟩
  have hsplit : x.id = ⟨query.connection, x.id.generation⟩ := by rw [← hconnection]
  rw [hsplit] at hkey
  rw [show y.id = ⟨query.connection, x.id.generation⟩ from hid.trans hsplit,
    mem_records_iff_of_portion h]
  exact hkey

include h in
theorem map_recordsOf_eq_of_portion (generation : Nat) :
    (t.recordsOf ⟨connection, generation⟩).map (·.apartFromNumber) =
      (s.recordsOf ⟨connection, generation⟩).map (·.apartFromNumber) := by
  have hrecords : ∀ (u : Store) (commands : List CommandId),
      (commands.filterMap fun command ↦ u.record? ⟨⟨connection, generation⟩, command⟩).map
        (·.apartFromNumber) = commands.filterMap (u.portion connection |>.record? generation) := by
    intro u commands
    rw [List.map_filterMap]
    rfl
  have hsession := map_session?_eq_of_portion h generation
  unfold recordsOf
  cases hx : s.session? ⟨connection, generation⟩ with
  | none =>
    rw [hx, Option.map_none, Option.map_eq_none_iff] at hsession
    rw [hsession]
  | some x =>
    rw [hx, Option.map_some, Option.map_eq_some_iff] at hsession
    obtain ⟨y, hy, hsame⟩ := hsession
    have hcommands : y.apartFromNumbers.commands = x.apartFromNumbers.commands := by rw [hsame]
    rw [hy, hrecords, hrecords, h]
    exact congrArg (List.filterMap _) hcommands

end Agreement

/-! ### What people see of it -/

/-- The sessions of a connection with their records, oldest first, apart from the numbers of
events. -/
def history (s : Store) (connection : ConnectionId) : List (Session × List RecordedQuery) :=
  (s.sessionsOf connection).map fun x ↦
    (x.apartFromNumbers, (s.recordsOf x.id).map (·.apartFromNumber))

theorem Coherent.history_eq_of_portion (hs : s.Coherent) (ht : t.Coherent)
    (h : t.portion connection = s.portion connection) :
    t.history connection = s.history connection := by
  unfold history
  rw [ht.sessionsOf_eq, hs.sessionsOf_eq, List.map_filterMap, List.map_filterMap,
    hs.generations_eq_of_portion ht h]
  refine List.filterMap_congr fun generation _ ↦ ?_
  have hsession := map_session?_eq_of_portion h generation
  have hrecords := map_recordsOf_eq_of_portion h generation
  have hpair : ∀ u : Store, u.Coherent →
      ((u.session? ⟨connection, generation⟩).map fun x ↦
        (x.apartFromNumbers, (u.recordsOf x.id).map (·.apartFromNumber))) =
      ((u.session? ⟨connection, generation⟩).map (·.apartFromNumbers)).map fun x ↦
        (x, (u.recordsOf ⟨connection, generation⟩).map (·.apartFromNumber)) := by
    intro u hu
    rw [Option.map_map]
    refine Option.map_congr fun x hx ↦ ?_
    rw [Function.comp_apply, (hu.session?_eq_some_iff.mp hx).2]
  rw [hpair t ht, hpair s hs, hsession, hrecords]

end Store
end QueryWatch

import QueryWatch.Proofs.Store.Run

/-!
The numbers of events order the history. `Store.Chronological` says that sessions stand in the order
of the events that opened them, that a session lists its commands in the order of the events that
issued them, and that these lie between the event that opened it and the one that last concerned it.
Each part of an update keeps this (`Dated` has it for one session); what is opened or recorded gets
the number of the latest event, which is above all numbers there are. So it holds along every run
(`chronological_run`), and the records of a session are listed by rising number
(`Chronological.pairwise_recordsOf`).
-/

set_option autoImplicit false

namespace QueryWatch.Store

variable {s t : Store} {id : SessionId} {connection : ConnectionId} {key : RecordKey} {e : Event}

/-- The number of the event that issued a query. -/
def received? (s : Store) (key : RecordKey) : Option Nat := (s.record? key).map (·.received)

/-- The numbers of the events that issued the commands of a session, in the order in which it lists
them. -/
def arrivals (s : Store) (x : Session) : List Nat :=
  x.commands.filterMap fun command ↦ s.received? ⟨x.id, command⟩

/-- A session was last concerned at or behind the event that opened it, and lists its commands in
the order in which they were issued, between these two. -/
structure Dated (s : Store) (x : Session) : Prop where
  opened_le : x.firstSeen ≤ x.lastSeen
  le_latest : x.lastSeen ≤ s.lastNumber
  issued : (s.arrivals x).Pairwise (· < ·)
  between : ∀ number ∈ s.arrivals x, x.firstSeen ≤ number ∧ number ≤ x.lastSeen

/-- Sessions and their commands are in the order of the numbers of their events. -/
structure Chronological (s : Store) : Prop where
  /-- Sessions stand in the order in which they were opened. -/
  opened : (s.sessions.map (·.firstSeen)).Pairwise (· < ·)
  dated : ∀ x ∈ s.sessions, s.Dated x

theorem chronological_empty (settings : StoreSettings) : (empty settings).Chronological where
  opened := List.Pairwise.nil
  dated := nofun

theorem arrivals_congr {x y : Session} (hid : y.id = x.id) (hcommands : y.commands = x.commands)
    (hreceived : ∀ key, t.received? key = s.received? key) : t.arrivals y = s.arrivals x := by
  unfold arrivals
  rw [hid, hcommands]
  exact List.filterMap_congr fun command _ ↦ hreceived _

/-! ### One session -/

namespace Dated

variable {x y : Session}

theorem congr (h : s.Dated x) (hnumber : s.lastNumber ≤ t.lastNumber)
    (harrivals : t.arrivals x = s.arrivals x) : t.Dated x where
  opened_le := h.opened_le
  le_latest := Nat.le_trans h.le_latest hnumber
  issued := harrivals ▸ h.issued
  between := harrivals ▸ h.between

/-- The latest event may concern a session. -/
theorem touched (h : s.Dated x) (hfirst : y.firstSeen = x.firstSeen)
    (hlast : y.lastSeen = s.lastNumber) (harrivals : s.arrivals y = s.arrivals x) : s.Dated y where
  opened_le := by
    rw [hfirst, hlast]
    exact Nat.le_trans h.opened_le h.le_latest
  le_latest := Nat.le_of_eq hlast
  issued := harrivals ▸ h.issued
  between number hnumber := by
    rw [harrivals] at hnumber
    obtain ⟨hlower, hupper⟩ := h.between number hnumber
    rw [hfirst, hlast]
    exact ⟨hlower, Nat.le_trans hupper h.le_latest⟩

/-- The latest event may open a session. -/
theorem of_opened (s : Store) (id : SessionId) (stage : SessionStage) :
    s.Dated ⟨id, stage, [], 0, s.lastNumber, s.lastNumber⟩ where
  opened_le := Nat.le_refl _
  le_latest := Nat.le_refl _
  issued := List.Pairwise.nil
  between := nofun

/-- The latest event may issue one more command on a session. -/
theorem issuedLatest (h : s.Dated x) (hnumber : s.lastNumber ≤ t.lastNumber)
    (hearlier : ∀ number ∈ s.arrivals x, number < t.lastNumber)
    (hfirst : y.firstSeen = x.firstSeen) (hlast : y.lastSeen = t.lastNumber)
    (harrivals : t.arrivals y = s.arrivals x ++ [t.lastNumber]) : t.Dated y where
  opened_le := by
    rw [hfirst, hlast]
    exact Nat.le_trans h.opened_le (Nat.le_trans h.le_latest hnumber)
  le_latest := Nat.le_of_eq hlast
  issued := by
    rw [harrivals, List.pairwise_append]
    refine ⟨h.issued, List.pairwise_singleton _ _, fun number hnumber last hlast ↦ ?_⟩
    rw [List.mem_singleton.mp hlast]
    exact hearlier number hnumber
  between number hmem := by
    rw [harrivals] at hmem
    rw [hfirst, hlast]
    rcases List.mem_append.mp hmem with hmem | hmem
    · exact ⟨(h.between number hmem).1, Nat.le_of_lt (hearlier number hmem)⟩
    · rw [List.mem_singleton.mp hmem]
      exact ⟨Nat.le_trans h.opened_le (Nat.le_trans h.le_latest hnumber), Nat.le_refl _⟩

end Dated

/-! ### Parts of updates -/

namespace Chronological

/-- The order is that of the sessions and of the numbers of the records. -/
theorem congr (h : s.Chronological) (hsessions : t.sessions = s.sessions)
    (hnumber : s.lastNumber ≤ t.lastNumber)
    (hreceived : ∀ key, t.received? key = s.received? key) : t.Chronological where
  opened := hsessions ▸ h.opened
  dated x hx := by
    rw [hsessions] at hx
    exact (h.dated x hx).congr hnumber (arrivals_congr rfl rfl hreceived)

theorem advance (h : s.Chronological) : s.advance.Chronological :=
  h.congr rfl (Nat.le_succ _) fun _ ↦ rfl

/-- A session may change in its stage, and in that the latest event concerned it. -/
theorem updateSession (h : s.Chronological) (place : Nat) {f : Session → Session}
    (hid : ∀ x, (f x).id = x.id) (hcommands : ∀ x, (f x).commands = x.commands)
    (hfirst : ∀ x, (f x).firstSeen = x.firstSeen) (hlast : ∀ x, (f x).lastSeen = s.lastNumber) :
    (s.updateSession place f).Chronological where
  opened := by
    rw [map_updateSession fun x _ ↦ hfirst x]
    exact h.opened
  dated y hy := by
    obtain ⟨x, hx, rfl | ⟨-, rfl⟩⟩ := exists_of_mem_updateSession hy
    · exact (h.dated y hx).congr (Nat.le_refl _) rfl
    · have harrivals : s.arrivals (f x) = s.arrivals x :=
        arrivals_congr (hid x) (hcommands x) fun _ ↦ rfl
      exact ((h.dated x hx).touched (hfirst x) (hlast x) harrivals).congr (Nat.le_refl _) rfl

theorem touch (h : s.Chronological) (id : SessionId) : (s.touch id).Chronological := by
  unfold Store.touch
  split
  · exact h
  next place _ =>
    exact h.updateSession place (fun _ ↦ rfl) (fun _ ↦ rfl) (fun _ ↦ rfl) fun _ ↦ rfl

/-- A session that the latest event opens stands behind all those opened before. -/
theorem openNext_advance (h : s.Chronological) (connection : ConnectionId) (stage : SessionStage) :
    (s.advance.openNext connection stage).Chronological where
  opened := by
    rw [show (s.advance.openNext connection stage).sessions.map (·.firstSeen) =
      s.sessions.map (·.firstSeen) ++ [s.lastNumber + 1] from List.map_append,
      List.pairwise_append]
    refine ⟨h.opened, List.pairwise_singleton _ _, fun number hnumber last hlast ↦ ?_⟩
    obtain ⟨x, hx, rfl⟩ := List.mem_map.mp hnumber
    have hdated := h.dated x hx
    rw [List.mem_singleton.mp hlast]
    exact Nat.lt_succ_of_le (Nat.le_trans hdated.opened_le hdated.le_latest)
  dated y hy := by
    rcases mem_openSession hy with hy | rfl
    · exact (h.dated y hy).congr (Nat.le_succ _) rfl
    · exact (Dated.of_opened s.advance _ stage).congr (Nat.le_refl _) rfl

end Chronological

theorem received?_updateRecord {f : RecordedQuery → RecordedQuery}
    (hreceived : ∀ r, (f r).received = r.received) (key other : RecordKey) :
    (s.updateRecord key f).received? other = s.received? other := by
  simp only [received?, record?, updateRecord, Std.ExtTreeMap.getElem?_modify,
    Std.compare_eq_iff_eq]
  split
  next hsame =>
    subst hsame
    cases s.records[key]? <;> simp [hreceived]
  next => rfl

theorem received?_resolve (key other : RecordKey) (result : QueryResult) :
    (s.resolve key result).received? other = s.received? other := by
  apply received?_updateRecord
  exact fun _ ↦ rfl

theorem received?_withQuery (place generation : Nat) (query : Query) (key : RecordKey) :
    (s.withQuery place generation query).received? key =
      if ⟨⟨query.connection, generation⟩, query.command⟩ = key then some s.lastNumber
      else s.received? key := by
  simp only [received?, record?, withQuery, Std.ExtTreeMap.getElem?_insert, Std.compare_eq_iff_eq]
  split <;> rfl

/-- Recording a query of another key leaves the numbers of a session's commands as they are. -/
theorem Coherent.arrivals_withQuery (hs : s.Coherent) {place : Nat} {x y : Session} {query : Query}
    (hconnection : x.id.connection = query.connection) (hkey : ⟨x.id, query.command⟩ ∉ s.records)
    (hy : y ∈ s.sessions) :
    (s.withQuery place x.id.generation query).arrivals y = s.arrivals y := by
  refine List.filterMap_congr fun command hcommand ↦ ?_
  rw [received?_withQuery, if_neg]
  intro heq
  have hsame : (⟨x.id, query.command⟩ : RecordKey) = ⟨y.id, command⟩ := by rw [← heq, ← hconnection]
  rw [hsame, hs.mem_records_iff hy] at hkey
  exact hkey hcommand

/-- The session a query goes to has the latest number behind those it had. -/
theorem Coherent.arrivals_withQuery_issued (hs : s.Coherent) {place : Nat} {x : Session}
    {query : Query} (hx : x ∈ s.sessions) (hconnection : x.id.connection = query.connection)
    (hkey : ⟨x.id, query.command⟩ ∉ s.records) (number : Nat) :
    (s.withQuery place x.id.generation query).arrivals (x.issued query.command number) =
      s.arrivals x ++ [s.lastNumber] := by
  have hid : (⟨query.connection, x.id.generation⟩ : SessionId) = x.id := by rw [← hconnection]
  have hlast : (s.withQuery place x.id.generation query).received? ⟨x.id, query.command⟩ =
      some s.lastNumber := by
    rw [received?_withQuery, hid, if_pos rfl]
  calc (s.withQuery place x.id.generation query).arrivals (x.issued query.command number)
      = (s.withQuery place x.id.generation query).arrivals x ++
          [query.command].filterMap fun command ↦
            (s.withQuery place x.id.generation query).received? ⟨x.id, command⟩ :=
        List.filterMap_append
    _ = s.arrivals x ++ [s.lastNumber] := by
        rw [hs.arrivals_withQuery hconnection hkey hx, List.filterMap_cons, hlast,
          List.filterMap_nil]

/-- A query may be recorded in a session all whose commands are from earlier events. -/
theorem Chronological.withQuery (h : s.Chronological) (hs : s.Coherent) {place : Nat} {x : Session}
    {query : Query} (hfound : s.newestPlaced? query.connection = some (place, x))
    (hkey : ⟨x.id, query.command⟩ ∉ s.records) (hearlier : ∀ number ∈ s.arrivals x,
      number < s.lastNumber) : (s.withQuery place x.id.generation query).Chronological where
  opened := by
    have hsame : (s.withQuery place x.id.generation query).sessions.map (·.firstSeen) =
        s.sessions.map (·.firstSeen) := map_updateSession fun _ _ ↦ rfl
    rw [hsame]
    exact h.opened
  dated y hy := by
    obtain ⟨hplace, hconnection, -⟩ := hs.newestPlaced?_eq_some_iff.mp hfound
    obtain ⟨z, hz, rfl | ⟨hsame, rfl⟩⟩ := exists_of_mem_updateSession (s := s) hy
    · exact (h.dated y hz).congr (Nat.le_refl _) (hs.arrivals_withQuery hconnection hkey hz)
    · rw [hplace, Option.some.injEq] at hsame
      subst hsame
      exact (h.dated x hz).issuedLatest (Nat.le_refl _) hearlier rfl rfl
        (hs.arrivals_withQuery_issued hz hconnection hkey s.lastNumber)

/-! ### Every step -/

/-- A query goes to a session all whose commands are from earlier events. -/
theorem Chronological.lt_of_destination (h : s.Chronological) {t : Store} {place : Nat}
    {x : Session} (hdestination : s.advance.Destination connection place x t) :
    t.Chronological ∧ ∀ number ∈ t.arrivals x, number < t.lastNumber := by
  rcases hdestination.cases with ⟨rfl, -⟩ | ⟨-, rfl, rfl⟩
  · refine ⟨h.advance, fun number hnumber ↦ ?_⟩
    have hplace := (hdestination.coherent.newestPlaced?_eq_some_iff.mp hdestination.found).1
    have hx : x ∈ s.sessions := List.mem_of_getElem? hplace
    have hdated := h.dated x hx
    exact Nat.lt_succ_of_le (Nat.le_trans (hdated.between number hnumber).2 hdated.le_latest)
  · exact ⟨h.openNext_advance connection .started, nofun⟩

theorem Chronological.step (h : s.Chronological) (hstep : s.Step e t) : t.Chronological := by
  cases hstep with
  | staged hnewest hstage =>
    exact h.advance.updateSession _ (fun _ ↦ rfl) (fun _ ↦ rfl) (fun _ ↦ rfl) fun _ ↦ rfl
  | opened hvacant hstart => exact h.openNext_advance _ _
  | repeated hduplicate => exact h.advance.congr rfl (Nat.le_refl _) fun _ ↦ rfl
  | recorded hnew hdestination hconnection hkey =>
    obtain ⟨hchronological, hearlier⟩ := h.lt_of_destination hdestination
    exact hchronological.withQuery hdestination.coherent hdestination.found hkey hearlier
  | @resolved result key htarget =>
    have hresolve : (s.advance.resolve key result).Chronological :=
      h.advance.congr rfl (Nat.le_refl _) fun other ↦ received?_resolve key other result
    exact (hresolve.touch key.session).congr rfl (Nat.le_refl _) fun _ ↦ rfl
  | buffered htarget =>
    rw [buffer_eq]
    exact h.advance.congr rfl (Nat.le_refl _) fun _ ↦ rfl

/-- How a record is shown says nothing about the event that issued it. -/
theorem Alike.received?_eq (h : s.Alike t) (key : RecordKey) :
    t.received? key = s.received? key := by
  have hreceived : ∀ u : Store, u.received? key = (u.content? key).map (·.received) := by
    intro u
    rw [received?, content?, Option.map_map]
    rfl
  rw [hreceived, hreceived, h.content]

theorem Chronological.perform (h : s.Chronological) (hs : s.Coherent) (operation : Operation) :
    (s.perform operation).Chronological := by
  rcases operation.cases_isShowing with hshowing | rfl | ⟨e, rfl⟩
  · have halike := perform_of_isShowing (s := s) hshowing
    exact h.congr (by rw [halike.rest]) (Nat.le_of_eq (by rw [halike.rest])) halike.received?_eq
  · exact (chronological_empty s.settings).congr rfl (Nat.zero_le _) fun _ ↦ rfl
  · exact h.step (hs.step_receive e)

theorem Chronological.run (h : s.Chronological) (hs : s.Coherent) (operations : List Operation) :
    (s.run operations).Chronological := by
  induction operations generalizing s with
  | nil => exact h
  | cons operation operations ih => exact ih (h.perform hs operation) (hs.perform operation)

/-- In every store that a run reaches from an empty one, sessions and their commands are in the
order of the numbers of their events. -/
theorem chronological_run (settings : StoreSettings) (operations : List Operation) :
    ((empty settings).run operations).Chronological :=
  (chronological_empty settings).run (coherent_empty settings) operations

/-! ### The records of a session -/

theorem Indexed.map_received_recordsOf (hs : s.Indexed) {x : Session} (hx : x ∈ s.sessions) :
    (s.recordsOf x.id).map (·.received) = s.arrivals x := by
  rw [recordsOf, hs.session?_eq_some_iff.mpr ⟨hx, rfl⟩, arrivals, List.map_filterMap]
  rfl

/-- The records of a session are listed by rising number. -/
theorem Chronological.pairwise_recordsOf (h : s.Chronological) (hs : s.Indexed) (id : SessionId) :
    (s.recordsOf id).Pairwise fun earlier later ↦ earlier.received < later.received := by
  cases hfound : s.session? id with
  | none =>
    rw [recordsOf, hfound]
    exact List.Pairwise.nil
  | some x =>
    obtain ⟨hx, rfl⟩ := hs.session?_eq_some_iff.mp hfound
    rw [← List.pairwise_map, hs.map_received_recordsOf hx]
    exact (h.dated x hx).issued

end QueryWatch.Store

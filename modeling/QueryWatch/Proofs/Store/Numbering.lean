import QueryWatch.Proofs.Store.Generations
import QueryWatch.Proofs.Store.Records

/-!
Numbers order the history, also across resets. A reset forgets sessions and records but not the
number of the latest event, so what comes behind it has higher numbers than all that was before it.

`Store.Continues s t` says how a store `t` that comes behind `s` is related to it: a session of `t`
was there and was last concerned no earlier than then, or was opened by an event that came later;
and likewise for records. Every operation has this of the store it is performed on
(`Chronological.continues_perform`), and it is transitive, so a run has it of the store it starts
from (`Chronological.continues_run`). A reset leaves nothing that was there, so only the second case
remains (`Continues.lt_of_carries`). That no two records have one number (`Distinct`) is kept since
a record that is added has the number of the latest event. `numbering_run` has all of this for the
stores that a run reaches from an empty one.
-/

set_option autoImplicit false

namespace QueryWatch.Store

variable {s t u : Store} {e : Event} {x y : Session} {key : RecordKey} {r : RecordedQuery}

/-- A session or a record has a number. -/
inductive Carries (s : Store) : Nat → Prop
  | firstSeen {x : Session} (hx : x ∈ s.sessions) : Carries s x.firstSeen
  | lastSeen {x : Session} (hx : x ∈ s.sessions) : Carries s x.lastSeen
  | received {key : RecordKey} {r : RecordedQuery} (hr : s.record? key = some r) :
      Carries s r.received

theorem received?_of_record? (hr : s.record? key = some r) :
    s.received? key = some r.received := by
  rw [received?, hr, Option.map_some]

/-- No number that is carried is of an event yet to come. -/
theorem Chronological.le_of_carries (h : s.Chronological) (hs : s.Successive) {number : Nat}
    (hcarries : s.Carries number) : number ≤ s.lastNumber := by
  cases hcarries with
  | firstSeen hx => exact Nat.le_trans (h.dated _ hx).opened_le (h.dated _ hx).le_latest
  | lastSeen hx => exact (h.dated _ hx).le_latest
  | received hr => exact hs.le_latest _ _ (received?_of_record? hr)

/-- A record is from an event between the one that opened its session and the one that last
concerned it. -/
theorem Chronological.received_between (h : s.Chronological) (hs : s.Coherent)
    (hr : s.record? key = some r) :
    ∃ x ∈ s.sessions, x.id = key.session ∧ x.firstSeen ≤ r.received ∧ r.received ≤ x.lastSeen := by
  obtain ⟨x, hx, hid, -⟩ := (hs.recorded key).mp (mem_records_iff_record?.mpr ⟨r, hr⟩)
  refine ⟨x, hx, hid, (h.dated x hx).between r.received ?_⟩
  rw [← hs.map_received_recordsOf hx]
  exact List.mem_map_of_mem (hs.mem_recordsOf_iff.mpr ⟨key.command, hid ▸ hr⟩)

/-! ### No number twice -/

/-- No two records are from one event. -/
def Distinct (s : Store) : Prop :=
  ∀ first second number, s.received? first = some number → s.received? second = some number →
    first = second

theorem distinct_empty (settings : StoreSettings) : (empty settings).Distinct := nofun

namespace Distinct

theorem congr (h : s.Distinct) (hreceived : ∀ key, t.received? key = s.received? key) :
    t.Distinct := by
  intro first second number hfirst hsecond
  rw [hreceived] at hfirst hsecond
  exact h first second number hfirst hsecond

theorem step (h : s.Distinct) (hs : s.Successive) (hstep : s.Step e t) : t.Distinct := by
  rcases hstep.received?_cases with hsame | ⟨latest, -, hreceived⟩
  · exact h.congr hsame
  -- The record that was added is the only one with the number of the latest event.
  have hlatest : ∀ key, t.received? key = some t.lastNumber → latest = key := by
    intro key hkey
    by_contra hne
    rw [hreceived, if_neg hne] at hkey
    have hle := hs.le_latest key _ hkey
    have hnumber := hstep.lastNumber_eq
    omega
  have hold : ∀ key number, number ≠ t.lastNumber → t.received? key = some number →
      s.received? key = some number := by
    intro key number hne hkey
    rw [hreceived] at hkey
    split at hkey
    · exact absurd (Option.some.inj hkey).symm hne
    · exact hkey
  intro first second number hfirst hsecond
  by_cases hnumber : number = t.lastNumber
  · subst hnumber
    exact (hlatest first hfirst).symm.trans (hlatest second hsecond)
  · exact h first second number (hold first number hnumber hfirst)
      (hold second number hnumber hsecond)

theorem perform (h : s.Distinct) (hs : s.Coherent) (hsuccessive : s.Successive)
    (operation : Operation) : (s.perform operation).Distinct := by
  rcases operation.cases_isShowing with hshowing | rfl | ⟨e, rfl⟩
  · exact h.congr (perform_of_isShowing (s := s) hshowing).received?_eq
  · exact (distinct_empty s.settings).congr fun _ ↦ rfl
  · exact h.step hsuccessive (hs.step_receive e)

theorem run (h : s.Distinct) (hs : s.Coherent) (hsuccessive : s.Successive)
    (operations : List Operation) : (s.run operations).Distinct := by
  induction operations generalizing s with
  | nil => exact h
  | cons operation operations ih =>
    exact ih (h.perform hs hsuccessive operation) (hs.perform operation)
      (hsuccessive.perform hs operation)

end Distinct

/-! ### How many numbers there are -/

/-- An operation takes at most one number. -/
theorem Coherent.lastNumber_perform (hs : s.Coherent) (operation : Operation) :
    s.lastNumber ≤ (s.perform operation).lastNumber ∧
      (s.perform operation).lastNumber ≤ s.lastNumber + 1 := by
  rcases operation.cases_isShowing with hshowing | rfl | ⟨e, rfl⟩
  · have hnumber : (s.perform operation).lastNumber = s.lastNumber := by
      rw [(perform_of_isShowing (s := s) hshowing).rest]
    exact ⟨Nat.le_of_eq hnumber.symm, by omega⟩
  · exact ⟨Nat.le_refl _, Nat.le_succ _⟩
  · have hnumber : (s.perform (.event e)).lastNumber = s.lastNumber + 1 :=
      (hs.step_receive e).lastNumber_eq
    exact ⟨by omega, Nat.le_of_eq hnumber⟩

theorem Coherent.lastNumber_run (hs : s.Coherent) (operations : List Operation) :
    (s.run operations).lastNumber ≤ s.lastNumber + operations.length := by
  induction operations generalizing s with
  | nil => exact Nat.le_refl _
  | cons operation operations ih =>
    have hrest : ((s.perform operation).run operations).lastNumber ≤
        (s.perform operation).lastNumber + operations.length := ih (hs.perform operation)
    have hfirst := (hs.lastNumber_perform operation).2
    calc (s.run (operation :: operations)).lastNumber
        ≤ (s.perform operation).lastNumber + operations.length := hrest
      _ ≤ s.lastNumber + (operations.length + 1) := by omega

/-! ### What comes behind a store -/

/-- A session was in a store, where it was last concerned no later than now, or it was opened by a
later event. -/
def Followed (s : Store) (y : Session) : Prop :=
  (∃ x ∈ s.sessions, y.id = x.id ∧ y.firstSeen = x.firstSeen ∧ x.lastSeen ≤ y.lastSeen) ∨
    s.lastNumber < y.firstSeen

/-- A store comes behind another one. -/
structure Continues (s t : Store) : Prop where
  lastNumber_le : s.lastNumber ≤ t.lastNumber
  sessions : ∀ y ∈ t.sessions, s.Followed y
  records : ∀ key number, t.received? key = some number →
    s.received? key = some number ∨ s.lastNumber < number

namespace Followed

theorem of_mem (hx : x ∈ s.sessions) : s.Followed x :=
  Or.inl ⟨x, hx, rfl, rfl, Nat.le_refl _⟩

/-- A session may be concerned once more. -/
theorem concerned (h : s.Followed x) (hid : y.id = x.id) (hfirst : y.firstSeen = x.firstSeen)
    (hlast : x.lastSeen ≤ y.lastSeen) : s.Followed y := by
  rcases h with ⟨z, hz, hzid, hzfirst, hzlast⟩ | hlater
  · exact Or.inl ⟨z, hz, hid.trans hzid, hfirst.trans hzfirst, Nat.le_trans hzlast hlast⟩
  · exact Or.inr (hfirst ▸ hlater)

/-- The latest event may concern one session of a store. -/
theorem updateSession (h : ∀ x ∈ t.sessions, s.Followed x) (ht : t.Chronological) (place : Nat)
    {f : Session → Session} (hid : ∀ x, (f x).id = x.id)
    (hfirst : ∀ x, (f x).firstSeen = x.firstSeen) (hlast : ∀ x, (f x).lastSeen = t.lastNumber) :
    ∀ y ∈ (t.updateSession place f).sessions, s.Followed y := by
  intro y hy
  obtain ⟨x, hx, rfl | ⟨-, rfl⟩⟩ := exists_of_mem_updateSession hy
  · exact h y hx
  · refine (h x hx).concerned (hid x) (hfirst x) ?_
    rw [hlast]
    exact (ht.dated x hx).le_latest

theorem touch (h : ∀ x ∈ t.sessions, s.Followed x) (ht : t.Chronological) (id : SessionId) :
    ∀ y ∈ (t.touch id).sessions, s.Followed y := by
  unfold Store.touch
  split
  · exact h
  next place _ =>
    exact updateSession h ht place (fun _ ↦ rfl) (fun _ ↦ rfl) fun _ ↦ rfl

/-- The latest event may open a session. -/
theorem openNext_advance (connection : ConnectionId) (stage : SessionStage) :
    ∀ y ∈ (s.advance.openNext connection stage).sessions, s.Followed y := by
  intro y hy
  rcases mem_openSession hy with hy | rfl
  · exact of_mem hy
  · exact Or.inr (Nat.lt_succ_self s.lastNumber)

end Followed

/-- After an event a session was there before or is opened by that event. -/
theorem Chronological.followed_of_step (h : s.Chronological) (hstep : s.Step e t) :
    ∀ y ∈ t.sessions, s.Followed y := by
  have hsame : ∀ x ∈ s.advance.sessions, s.Followed x :=
    fun _ hx ↦ Followed.of_mem (s := s) hx
  cases hstep with
  | staged hnewest hstage =>
    exact Followed.updateSession hsame h.advance _ (fun _ ↦ rfl) (fun _ ↦ rfl) fun _ ↦ rfl
  | opened hvacant hstart => exact Followed.openNext_advance _ _
  | repeated hduplicate => exact hsame
  | recorded hnew hdestination hconnection hkey =>
    have hfollowed := h.lt_of_destination hdestination
    refine Followed.updateSession ?_ hfollowed.1 _ (fun _ ↦ rfl) (fun _ ↦ rfl) fun _ ↦ rfl
    rcases hdestination.cases with ⟨rfl, -⟩ | ⟨-, rfl, -⟩
    · exact hsame
    · exact Followed.openNext_advance _ _
  | @resolved result key htarget =>
    have hresolve : (s.advance.resolve key result).Chronological :=
      h.advance.congr rfl (Nat.le_refl _) fun other ↦ received?_resolve key other result
    exact Followed.touch (t := s.advance.resolve key result) hsame hresolve key.session
  | buffered htarget =>
    rw [sessions_buffer]
    exact hsame

namespace Continues

theorem refl (s : Store) : s.Continues s :=
  ⟨Nat.le_refl _, fun _ ↦ Followed.of_mem, fun _ _ ↦ Or.inl⟩

theorem trans (h : s.Continues t) (h' : t.Continues u) : s.Continues u where
  lastNumber_le := Nat.le_trans h.lastNumber_le h'.lastNumber_le
  sessions y hy := by
    rcases h'.sessions y hy with ⟨x, hx, hid, hfirst, hlast⟩ | hlater
    · exact (h.sessions x hx).concerned hid hfirst hlast
    · exact Or.inr (Nat.lt_of_le_of_lt h.lastNumber_le hlater)
  records key number hkey := by
    rcases h'.records key number hkey with hold | hlater
    · exact h.records key number hold
    · exact Or.inr (Nat.lt_of_le_of_lt h.lastNumber_le hlater)

/-- A session that is in both stores was last concerned no earlier in the later one. -/
theorem lastSeen_le (h : s.Continues t) (hs : s.Coherent) (hchronological : s.Chronological)
    (ht : t.Chronological) (hx : x ∈ s.sessions) (hy : y ∈ t.sessions) (hid : y.id = x.id) :
    x.lastSeen ≤ y.lastSeen := by
  rcases h.sessions y hy with ⟨z, hz, hzid, -, hlast⟩ | hlater
  · have hsame : z = x := hs.eq_of_id_eq hz hx (hzid.symm.trans hid)
    exact hsame ▸ hlast
  · have hle := (hchronological.dated x hx).le_latest
    have hopened := (ht.dated y hy).opened_le
    omega

/-- Behind a store that has neither sessions nor records all numbers are higher than its own. -/
theorem lt_of_carries (h : s.Continues t) (ht : t.Chronological) (hsessions : s.sessions = [])
    (hrecords : ∀ key, s.received? key = none) {number : Nat} (hcarries : t.Carries number) :
    s.lastNumber < number := by
  have hfirst : ∀ y ∈ t.sessions, s.lastNumber < y.firstSeen := by
    intro y hy
    rcases h.sessions y hy with ⟨x, hx, -⟩ | hlater
    · rw [hsessions] at hx
      cases hx
    · exact hlater
  cases hcarries with
  | firstSeen hx => exact hfirst _ hx
  | lastSeen hx => exact Nat.lt_of_lt_of_le (hfirst _ hx) (ht.dated _ hx).opened_le
  | @received key r hr =>
    rcases h.records key r.received (received?_of_record? hr) with hold | hlater
    · rw [hrecords] at hold
      cases hold
    · exact hlater

end Continues

theorem Chronological.continues_step (h : s.Chronological) (hstep : s.Step e t) :
    s.Continues t where
  lastNumber_le := by
    rw [hstep.lastNumber_eq]
    exact Nat.le_succ _
  sessions := h.followed_of_step hstep
  records key number hkey := by
    rcases hstep.received?_cases with hsame | ⟨latest, -, hreceived⟩
    · exact Or.inl (hsame key ▸ hkey)
    · rw [hreceived] at hkey
      split at hkey
      · rw [← Option.some.inj hkey, hstep.lastNumber_eq]
        exact Or.inr (Nat.lt_succ_self _)
      · exact Or.inl hkey

theorem Chronological.continues_perform (h : s.Chronological) (hs : s.Coherent)
    (operation : Operation) : s.Continues (s.perform operation) := by
  rcases operation.cases_isShowing with hshowing | rfl | ⟨e, rfl⟩
  · have halike := perform_of_isShowing (s := s) hshowing
    refine ⟨(hs.lastNumber_perform operation).1, fun y hy ↦ ?_, fun key number hkey ↦ ?_⟩
    · rw [halike.rest] at hy
      exact Followed.of_mem hy
    · exact Or.inl (halike.received?_eq key ▸ hkey)
  · exact ⟨Nat.le_refl _, nofun, nofun⟩
  · exact h.continues_step (hs.step_receive e)

theorem Chronological.continues_run (h : s.Chronological) (hs : s.Coherent)
    (operations : List Operation) : s.Continues (s.run operations) := by
  induction operations generalizing s with
  | nil => exact Continues.refl s
  | cons operation operations ih =>
    exact (h.continues_perform hs operation).trans
      (ih (h.perform hs operation) (hs.perform operation))

/-- All that is there after a reset has higher numbers than the events before it. -/
theorem Chronological.lt_of_carries_reset (h : s.Chronological) (hs : s.Coherent)
    {operations : List Operation} {number : Nat}
    (hcarries : ((s.perform .reset).run operations).Carries number) : s.lastNumber < number := by
  have hreset := h.perform hs .reset
  exact (hreset.continues_run (hs.perform .reset) operations).lt_of_carries
    (hreset.run (hs.perform .reset) operations) rfl (fun _ ↦ rfl) hcarries

/-- A run takes at most as many numbers as it has operations. In every store that it reaches from an
empty one sessions stand by rising number of the event that opened them; no two records are from one
event; a session lists its commands by rising number of their records, and every record is from an
event between those that opened its session and last concerned it. No number that is carried is of
an event yet to come, and a session is never said to be last concerned earlier than it was. All that
is there after a reset has higher numbers than what was there at any time before it, and than the
events that had come by then. -/
theorem numbering_run (settings : StoreSettings) (operations : List Operation) :
    let start := empty settings
    let s := start.run operations
    s.lastNumber ≤ operations.length ∧
      s.sessions.Pairwise (fun earlier later ↦ earlier.firstSeen < later.firstSeen) ∧
      (∀ key key' r r', s.record? key = some r → s.record? key' = some r' →
        r.received = r'.received → key = key') ∧
      (∀ x ∈ s.sessions, (s.recordsOf x.id).map (·.query.command) = x.commands ∧
        (s.recordsOf x.id).Pairwise fun earlier later ↦ earlier.received < later.received) ∧
      (∀ key r, s.record? key = some r → ∃ x ∈ s.sessions, x.id = key.session ∧
        x.firstSeen ≤ r.received ∧ r.received ≤ x.lastSeen) ∧
      (∀ number, s.Carries number → number ≤ s.lastNumber) ∧
      (∀ later, ∀ x ∈ s.sessions, ∀ y ∈ (s.run later).sessions, y.id = x.id →
        x.lastSeen ≤ y.lastSeen) ∧
      ∀ earlier between later, operations = earlier ++ between ++ .reset :: later →
        ∀ used fresh,
          (start.run earlier).Carries used ∨ used ≤ (start.run earlier).lastNumber →
          s.Carries fresh → used < fresh := by
  intro start s
  have hstart : start.Coherent := coherent_empty settings
  have hchronological : ∀ operations, (start.run operations).Chronological :=
    chronological_run settings
  have hsuccessive : ∀ operations, (start.run operations).Successive := successive_run settings
  have hcoherent : ∀ operations, (start.run operations).Coherent := hstart.run
  have hs := hcoherent operations
  have hdistinct : s.Distinct :=
    (distinct_empty settings).run hstart (successive_empty settings) operations
  refine ⟨?_, List.pairwise_map.mp (hchronological operations).opened, ?_,
    fun x hx ↦ ⟨hs.map_command_recordsOf hx, ?_⟩,
    fun key r ↦ (hchronological operations).received_between hs,
    fun number ↦ (hchronological operations).le_of_carries (hsuccessive operations), ?_, ?_⟩
  · have hle := hstart.lastNumber_run operations
    rwa [show start.lastNumber = 0 from rfl, Nat.zero_add] at hle
  · intro key key' r r' hr hr' hsame
    exact hdistinct key key' r.received (received?_of_record? hr)
      (hsame ▸ received?_of_record? hr')
  · exact (hchronological operations).pairwise_recordsOf hs.toIndexed x.id
  · intro later x hx y hy hid
    exact ((hchronological operations).continues_run hs later).lastSeen_le hs
      (hchronological operations) ((hchronological operations).run hs later) hx hy hid
  · rintro earlier between later rfl used fresh hused hfresh
    have hle : used ≤ (start.run earlier).lastNumber := by
      rcases hused with hcarries | hle
      · exact (hchronological earlier).le_of_carries (hsuccessive earlier) hcarries
      · exact hle
    have hbetween : (start.run earlier).Continues (start.run (earlier ++ between)) := by
      rw [run_append]
      exact (hchronological earlier).continues_run (hcoherent earlier) between
    -- The reset keeps the number of the latest event and nothing else that has a number.
    have hlt : (start.run (earlier ++ between)).lastNumber < fresh :=
      (hchronological (earlier ++ between)).lt_of_carries_reset (hcoherent _) <| by
        rwa [show s = ((start.run (earlier ++ between)).perform .reset).run later from
          run_append start _ _] at hfresh
    exact Nat.lt_of_le_of_lt (Nat.le_trans hle hbetween.lastNumber_le) hlt

/-- A query is issued twice, its connection is used again, and after a reset two more queries are
issued, the second on the same name: the numbers go on where the last event before the reset was,
though generations start anew. -/
theorem numbering_run_reset :
    let earlier : List Operation := [.event (.issued ⟨"1", 1, none, "SELECT 1", [], true⟩),
      .event (.issued ⟨"1", 1, none, "SELECT 1", [], true⟩)]
    let between : List Operation := [.event (.session "1" .finished),
      .event (.session "1" .started)]
    let later : List Operation := [.event (.issued ⟨"2", 1, none, "SELECT 2", [], true⟩),
      .event (.issued ⟨"1", 1, none, "SELECT 1", [], true⟩)]
    let start := empty {}
    let s := start.run (earlier ++ between ++ .reset :: later)
    let again : Operation := .event (.result ⟨"1", 1, .ok, none, 40⟩)
    s.sessions.map (fun x ↦ (x.id, x.firstSeen)) = [(⟨"2", 0⟩, 5), (⟨"1", 0⟩, 6)] ∧
      (start.run earlier).Carries 1 ∧ (start.run earlier).lastNumber = 2 ∧ s.Carries 5 ∧
      1 < 5 ∧ 2 < 5 ∧
      ∀ x ∈ s.sessions, ∀ y ∈ (s.run [again]).sessions, y.id = x.id → x.lastSeen ≤ y.lastSeen := by
  intro earlier between later start s again
  obtain ⟨-, -, -, -, -, -, hlast, hreset⟩ :=
    numbering_run {} (earlier ++ between ++ .reset :: later)
  have hused : (start.run earlier).Carries 1 :=
    .firstSeen (x := ⟨⟨"1", 0⟩, .started, [1], 1, 1, 1⟩) (by decide)
  have hfresh : s.Carries 5 := .firstSeen (x := ⟨⟨"2", 0⟩, .started, [1], 1, 5, 5⟩) (by decide)
  have hnumber : (start.run earlier).lastNumber = 2 := by decide
  exact ⟨by decide, hused, hnumber, hfresh,
    hreset earlier between later rfl 1 5 (Or.inl hused) hfresh,
    hreset earlier between later rfl 2 5 (Or.inr (Nat.le_of_eq hnumber.symm)) hfresh, hlast [again]⟩

end QueryWatch.Store

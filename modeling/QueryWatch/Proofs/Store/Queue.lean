import QueryWatch.Proofs.Store.EventLists
import QueryWatch.Proofs.Store.Waiting

/-!
The results that wait, as a queue. What waits is always a part, in order, of the last results of all
commands that came since the last reset (`Queued`): each event keeps this (`Queued.step`), so the
result that waits for a command is the last one of that command, and those that wait stand in the
order in which they came.

A result is given up only where one more overflows the queue (`Overflows`): then the one in front is
given up and the new one stands behind the rest (`Step.orphans_of_overflows`). No other event gives
one up, and all results but those of its own command stay, in order
(`Step.orphans_of_not_overflows`). `queue_run` says all this of every store that a run reaches.
-/

set_option autoImplicit false

namespace QueryWatch

/-- Whether an event is about the command of a result: its query is issued, or it has a result. -/
def Event.concerns (e : Event) (o : QueryResult) : Bool :=
  match e with
  | session _ _ => false
  | issued query => o.isOf query.connection query.command
  | result r => o.isOf r.connection r.command

namespace Store

variable {s t : Store} {e : Event}

/-! ### What waits is among the last results -/

/-- What waits is among the last results of some events, in the order in which these came. -/
def Queued (s : Store) (events : List Event) : Prop := s.orphans.Sublist (latestResults events)

/-- An event that brings no result keeps what waits among the last ones, if it only takes away. -/
theorem Queued.concat_of_not_result {events : List Event} (hq : s.Queued events)
    (hresult : ∀ result, e ≠ .result result) (hsub : t.orphans.Sublist s.orphans) :
    t.Queued (events ++ [e]) := by
  rw [Queued, latestResults_concat_of_not_result events hresult]
  exact hsub.trans hq

/-- The results that waited and those of a command that now has one more: the others stay among the
last ones, and the new one is behind them. -/
theorem Queued.concat_result {events : List Event} (hq : s.Queued events) (result : QueryResult) :
    ((s.orphans.filter fun o ↦ !o.isOf result.connection result.command) ++ [result]).Sublist
      (latestResults (events ++ [.result result])) := by
  rw [latestResults_concat_result]
  exact List.Sublist.append (List.Sublist.filter _ hq) (List.Sublist.refl _)

/-- A command that has a target has no result that waits. -/
theorem Waiting.filter_isOf_of_target? (hw : s.Waiting) {connection : ConnectionId}
    {command : CommandId} {key : RecordKey} (htarget : s.target? connection command = some key) :
    (s.orphans.filter fun o ↦ !o.isOf connection command) = s.orphans := by
  refine List.filter_eq_self.mpr fun o ho ↦ ?_
  have hnone := hw.untargeted o ho
  rw [Bool.not_eq_true', Bool.eq_false_iff, ne_eq, isOf_iff]
  rintro ⟨rfl, rfl⟩
  rw [htarget] at hnone
  cases hnone

/-- Each event keeps what waits among the last results. -/
theorem Queued.step {events : List Event} (hq : s.Queued events) (hw : s.Waiting)
    (h : s.Step e t) : t.Queued (events ++ [e]) := by
  cases h with
  | staged hnewest hstage => exact hq.concat_of_not_result nofun (List.Sublist.refl _)
  | opened hvacant hstart => exact hq.concat_of_not_result nofun (List.Sublist.refl _)
  | repeated hduplicate => exact hq.concat_of_not_result nofun (List.Sublist.refl _)
  | @recorded query place x u hnew hdestination hconnection hkey =>
    have htaken : (u.otherOrphans query.connection query.command).Sublist u.orphans :=
      List.eraseP_sublist
    rw [hdestination.orphans_eq] at htaken
    exact hq.concat_of_not_result nofun htaken
  | @resolved result key htarget =>
    have hlast := hq.concat_result result
    rw [hw.filter_isOf_of_target? htarget] at hlast
    have horphans := orphans_touch (s.advance.resolve key result) key.session
    show ((s.advance.resolve key result).touch key.session).orphans.Sublist _
    rw [horphans]
    exact (List.sublist_append_left _ _).trans hlast
  | @buffered result htarget =>
    have hlast := hq.concat_result result
    rw [← otherOrphans_eq_filter hw.distinct] at hlast
    rw [Queued, orphans_buffer]
    dsimp only
    split
    next hzero =>
      -- None may wait, so none did.
      have hnone : s.orphans = [] :=
        List.length_eq_zero_iff.mp (Nat.le_zero.mp (hzero ▸ hw.bounded))
      show s.orphans.Sublist _
      rw [hnone]
      exact List.nil_sublist _
    next =>
      split
      · exact (List.Sublist.append (List.tail_sublist _) (List.Sublist.refl _)).trans hlast
      · exact hlast

/-! ### What is given up -/

/-- An event brings one result more than may wait: it has no target, it does not replace one that
waits, and as many wait as may. -/
def Overflows (s : Store) (e : Event) : Prop :=
  ∃ result, e = .result result ∧ s.target? result.connection result.command = none ∧
    s.orphan? result.connection result.command = none ∧
    0 < s.settings.orphanCapacity ∧ s.orphans.length = s.settings.orphanCapacity

/-- When one result more than may wait comes, the one in front is given up. -/
theorem Step.orphans_of_overflows (h : s.Step e t) (hover : s.Overflows e) :
    t.counts.orphansEvicted = s.counts.orphansEvicted + 1 ∧
      ∃ result oldest rest, e = .result result ∧ s.orphans = oldest :: rest ∧
        t.orphans = rest ++ [result] := by
  obtain ⟨result, rfl, htarget, hnone, hpos, hfull⟩ := hover
  have hothers : s.otherOrphans result.connection result.command = s.orphans :=
    otherOrphans_of_orphan?_eq_none hnone
  have hnot : ¬(s.settings.orphanCapacity = 0 ∨
      (s.otherOrphans result.connection result.command).length < s.settings.orphanCapacity) := by
    rw [hothers]
    omega
  cases h with
  | resolved hsome =>
    rw [htarget] at hsome
    cases hsome
  | buffered _ =>
    constructor
    · have hcounts := congrArg (·.orphansEvicted) (counts_buffer s.advance result)
      dsimp only at hcounts
      rw [hcounts]
      exact congrArg (s.counts.orphansEvicted + ·) (if_neg hnot)
    · obtain ⟨oldest, rest, hcons⟩ : ∃ oldest rest, s.orphans = oldest :: rest :=
        List.exists_cons_of_length_pos (hfull ▸ hpos)
      refine ⟨result, oldest, rest, rfl, hcons, ?_⟩
      rw [orphans_buffer]
      show (if s.settings.orphanCapacity = 0 then s.orphans
        else if s.settings.orphanCapacity ≤
            (s.otherOrphans result.connection result.command).length
          then (s.otherOrphans result.connection result.command).tail ++ [result]
          else s.otherOrphans result.connection result.command ++ [result]) = rest ++ [result]
      rw [hothers, if_neg (Nat.ne_of_gt hpos), if_pos (Nat.le_of_eq hfull.symm), hcons,
        List.tail_cons]

/-- There is room for a result that is not one more than may wait. -/
theorem Waiting.room_of_not_overflows (hw : s.Waiting) {result : QueryResult}
    (htarget : s.target? result.connection result.command = none)
    (hnot : ¬s.Overflows (.result result)) : s.settings.orphanCapacity = 0 ∨
      (s.otherOrphans result.connection result.command).length < s.settings.orphanCapacity := by
  by_contra hroom
  obtain ⟨hpos, hfull⟩ := not_or.mp hroom
  have hbounded := hw.bounded
  cases hfound : s.orphan? result.connection result.command with
  | none =>
    rw [otherOrphans_of_orphan?_eq_none hfound] at hfull
    exact hnot ⟨result, rfl, htarget, hfound, by omega, by omega⟩
  | some o =>
    -- The result that it replaces makes room for it.
    have hlength := s.length_otherOrphans result.connection result.command
    rw [hfound, Option.isSome_some, if_pos rfl] at hlength
    omega

/-- An event that does not bring one result more than may wait gives none up: only the result of its
own command can go. -/
theorem Step.orphans_of_not_overflows (h : s.Step e t) (hw : s.Waiting) (hnot : ¬s.Overflows e) :
    t.counts.orphansEvicted = s.counts.orphansEvicted ∧
      (s.orphans.filter fun o ↦ !e.concerns o).Sublist t.orphans := by
  constructor
  · refine h.orphansEvicted_eq fun result heq htarget ↦ ?_
    subst heq
    exact hw.room_of_not_overflows htarget hnot
  cases h with
  | staged hnewest hstage => exact List.filter_sublist
  | opened hvacant hstart => exact List.filter_sublist
  | repeated hduplicate => exact List.filter_sublist
  | @recorded query place x u hnew hdestination hconnection hkey =>
    have horphans : u.otherOrphans query.connection query.command =
        s.otherOrphans query.connection query.command :=
      congrArg (List.eraseP _) hdestination.orphans_eq
    show (s.orphans.filter fun o ↦ !o.isOf query.connection query.command).Sublist
      (u.otherOrphans query.connection query.command)
    rw [horphans, otherOrphans_eq_filter hw.distinct]
  | @resolved result key htarget =>
    have horphans := orphans_touch (s.advance.resolve key result) key.session
    show List.Sublist _ ((s.advance.resolve key result).touch key.session).orphans
    rw [horphans]
    exact List.filter_sublist
  | @buffered result htarget =>
    rcases Nat.eq_zero_or_pos s.settings.orphanCapacity with hzero | hpos
    · rw [orphans_buffer]
      dsimp only
      rw [if_pos (show s.advance.settings.orphanCapacity = 0 from hzero)]
      exact List.filter_sublist
    · have hroom := hw.room_of_not_overflows htarget hnot
      rw [orphans_buffer_of_kept (s := s.advance) hpos
        ((orphansEvicted_buffer_eq_iff s.advance result).mpr hroom)]
      show (s.orphans.filter fun o ↦ !o.isOf result.connection result.command).Sublist
        (s.otherOrphans result.connection result.command ++ [result])
      rw [← otherOrphans_eq_filter hw.distinct]
      exact List.sublist_append_left _ _

/-! ### What a result that waits cannot resolve -/

/-- A command without a target has no record in the newest generation, and its newest record is not
pending. -/
theorem Coherent.unresolvable_of_target? (hs : s.Coherent) {connection : ConnectionId}
    {command : CommandId} (hnone : s.target? connection command = none) :
    (∀ x, s.newestSession? connection = some x → ⟨x.id, command⟩ ∉ s.records) ∧
      ∀ r, s.newestRecord? connection command = some r → r.isPending = false := by
  constructor
  · intro x hx hmem
    obtain ⟨-, hconnection, hgenerations⟩ := hs.newestSession?_eq_some_iff.mp hx
    have hid : x.id = ⟨connection, x.id.generation⟩ := by rw [← hconnection]
    rw [hid] at hmem
    rw [hs.target?_of_newest hmem hgenerations] at hnone
    cases hnone
  · intro r hr
    obtain ⟨key, hkey, hrecord⟩ := Option.bind_eq_some_iff.mp hr
    rw [Bool.eq_false_iff]
    intro hunresolved
    have hpending : s.isPending key = true := by
      rw [isPending, hrecord]
      exact hunresolved
    rw [hs.target?_eq_some_iff.mpr ⟨hkey, Or.inr hpending⟩] at hnone
    cases hnone

/-! ### Runs -/

/-- In every store that a run reaches, what waits is among the last results since the last reset. -/
theorem queued_run (settings : StoreSettings) (operations : List Operation) :
    ((empty settings).run operations).Queued
      (((empty settings).heard operations).map (·.2)) := by
  refine (run_heard (P := fun s heard ↦ s.Coherent ∧ s.Waiting ∧ s.Queued (heard.map (·.2)))
    ⟨coherent_empty settings, waiting_empty settings, List.Sublist.refl _⟩ ?_ operations).2.2
  intro s heard operation h
  obtain ⟨hs, hw, hq⟩ := h
  refine ⟨hs.perform operation, hw.perform hs operation, ?_⟩
  rcases operation.cases_isShowing with hshowing | rfl | ⟨e, rfl⟩
  · rw [noted_of_isShowing hshowing, (perform_of_isShowing hshowing).rest]
    exact hq
  · exact List.nil_sublist _
  · rw [Operation.noted, List.map_append]
    exact hq.step hw (hs.step_receive e)

/-- In every store that a run reaches from an empty one, at most as many results wait as may, one
for each command; each of them is the last of its command since the last reset, and they stand in
the order in which they came; and none waits for a command that the newest generation has a record
of, or whose newest record is pending. An event gives a result up exactly if it brings one more than
may wait, and then the one in front; otherwise all but those of its own command stay, in order.
What people do gives none up, unless they reset the store. -/
theorem queue_run (settings : StoreSettings) (operations : List Operation) :
    let s := (empty settings).run operations
    let events := ((empty settings).heard operations).map (·.2)
    s.orphans.length ≤ settings.orphanCapacity ∧
      s.orphans.Pairwise (fun a b ↦ ¬(a.connection = b.connection ∧ a.command = b.command)) ∧
      s.orphans.Sublist (latestResults events) ∧
      (∀ o ∈ s.orphans, lastResult? events o.connection o.command = some o) ∧
      (∀ o ∈ s.orphans,
        (∀ x, s.newestSession? o.connection = some x → ⟨x.id, o.command⟩ ∉ s.records) ∧
        ∀ r, s.newestRecord? o.connection o.command = some r → r.isPending = false) ∧
      (∀ e, s.Overflows e →
        (s.receive e).counts.orphansEvicted = s.counts.orphansEvicted + 1 ∧
        ∃ result oldest rest, e = .result result ∧ s.orphans = oldest :: rest ∧
          (s.receive e).orphans = rest ++ [result]) ∧
      (∀ e, ¬s.Overflows e →
        (s.receive e).counts.orphansEvicted = s.counts.orphansEvicted ∧
        (s.orphans.filter fun o ↦ !e.concerns o).Sublist (s.receive e).orphans) ∧
      ∀ operation : Operation, operation.isShowing = true →
        (s.perform operation).orphans = s.orphans ∧ (s.perform operation).counts = s.counts := by
  intro s events
  have hs : s.Coherent := (coherent_empty settings).run operations
  have hw : s.Waiting := (waiting_empty settings).run (coherent_empty settings) operations
  have hq : s.Queued events := queued_run settings operations
  have hsettings : s.settings = settings := (coherent_empty settings).settings_run operations
  refine ⟨?_, ?_, hq, fun o ho ↦ lastResult?_of_mem_latestResults (hq.subset ho),
    fun o ho ↦ hs.unresolvable_of_target? (hw.untargeted o ho),
    fun e ↦ (hs.step_receive e).orphans_of_overflows,
    fun e ↦ (hs.step_receive e).orphans_of_not_overflows hw, fun operation hshowing ↦ ?_⟩
  · rw [← hsettings]
    exact hw.bounded
  · refine hw.distinct.imp fun {a b} hne hsame ↦ ?_
    rw [isOf_iff.mpr hsame] at hne
    cases hne
  · rw [(perform_of_isShowing hshowing).rest]
    exact ⟨rfl, rfl⟩

/-- Where one result may wait, the next one takes its place. -/
example :
    let first : QueryResult := ⟨"1", 7, .ok, none, 3⟩
    let second : QueryResult := ⟨"1", 8, .ok, none, 4⟩
    let s := (empty { orphanCapacity := 1 }).run [.event (.result first)]
    s.orphans = [first] ∧ (s.receive (.result second)).orphans = [second] := by
  decide

end Store
end QueryWatch

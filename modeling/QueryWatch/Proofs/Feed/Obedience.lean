import Mathlib.Data.List.Chain
import QueryWatch.Proofs.Feed.History

/-!
A feed does as the last switch says that it has looked at. Of the switches that were posted it looks
at those in front (`Step.exists_looked`), and it does something only while it is switched on
(`Apt.step`). What it tells the dashboard about being connected changes exactly when it begins or
ceases to read (`Step.calls`), and nothing else at a dashboard does (`connected_foldl_hear`). All of
this is kept along a history (`obedient_run`), and `History.obeys_run` reads off what holds at every
moment and from then on.
-/

set_option autoImplicit false

namespace QueryWatch.Feed

variable {f after : Feed} {input : FeedInput} {reports : List FeedReport}

/-! ### Switches -/

/-- A feed is switched off while it waits for a switch, and switched on while it does something. -/
def Apt (f : Feed) : Prop :=
  match f.phase with
  | .idle => f.enabled = false
  | .connecting | .reading _ | .waiting _ => f.enabled = true
  | .ended => True

theorem apt_resume (f : Feed) : Apt f.resume := by
  cases henabled : f.enabled <;> simp [Apt, resume, henabled]

theorem Apt.enabled_of_connecting (h : Apt f) (hphase : f.phase = .connecting) :
    f.enabled = true := by
  rwa [Apt, hphase] at h

/-- A feed that is switched off does not read. -/
theorem Apt.isReading_of_off (h : Apt f) (hoff : f.enabled = false) : f.isReading = false := by
  unfold isReading
  cases hphase : f.phase with
  | reading lines =>
    rw [Apt, hphase] at h
    exact h.symm.trans hoff
  | _ => rfl

theorem Apt.step (h : Apt f) (hstep : Step f input after reports) : Apt after := by
  unfold Apt at h
  cases hstep with
  | passed hconnecting hreading => exact h
  | connected hphase | failed hphase | read hphase bytes | paused hphase | closed hphase
  | broken hphase =>
    rw [hphase] at h
    exact h
  | elapsed hphase | switchedOff hlooks hposted | switchedOn hphase hposted
  | retried hphase hposted => exact apt_resume _
  | stayed hphase hposted => exact h
  | ended hlooks hposted habandoned => trivial

/-- Whether the last of some switches is the one to be on, if there is any. -/
def lastSays (switches : List FeedSwitch) (enabled : Bool) : Bool :=
  (switches.getLast?.map (decide <| · = .on)).getD enabled

theorem lastSays_append (first second : List FeedSwitch) (enabled : Bool) :
    lastSays (first ++ second) enabled = lastSays second (lastSays first enabled) := by
  unfold lastSays
  rw [List.getLast?_append]
  cases second.getLast? <;> rfl

/-- What is looked at comes from the front of the queue, and then the feed is as it says. -/
theorem Step.exists_looked (hstep : Step f input after reports) (h : Apt f) :
    ∃ looked : List FeedSwitch,
      f.posted = looked ++ after.posted ∧ after.enabled = lastSays looked f.enabled := by
  unfold Apt at h
  cases hstep with
  | switchedOff hlooks hposted | switchedOn hphase hposted => exact ⟨[_], hposted, rfl⟩
  | retried hphase hposted | stayed hphase hposted =>
    rw [hphase] at h
    exact ⟨[_], hposted, h⟩
  | _ => exact ⟨[], rfl, rfl⟩

theorem posted_heed (f : Feed) (switch : FeedSwitch) : (f.heed switch).1.posted = f.posted := by
  cases switch with
  | off => rfl
  | on =>
    unfold heed
    cases f.phase <;> rfl

/-- A feed that looks for a switch takes the next one. -/
theorem posted_obey (hlooks : f.Looks) {switch : FeedSwitch} {rest : List FeedSwitch}
    (hposted : f.posted = switch :: rest) : f.obey.1.posted = rest := by
  rw [obey_of_looks hlooks, hposted]
  exact posted_heed _ switch

/-! ### What the dashboard is told about being connected -/

/-- It is told whether the feed reads when that changes. -/
theorem Step.calls (hstep : Step f input after reports) :
    reports.filterMap call? = if f.isReading = after.isReading then [] else [after.isReading] := by
  cases hstep with
  | passed hconnecting hreading => rw [if_pos rfl, List.filterMap_nil]
  | connected hphase =>
    have hbefore : f.isReading = false := by rw [isReading, hphase]
    rw [hbefore]
    rfl
  | failed hphase =>
    have hbefore : f.isReading = false := by rw [isReading, hphase]
    rw [hbefore, isReading_wait, if_pos rfl, List.filterMap_nil]
  | read hphase bytes =>
    rw [isReading_of_phase hphase, filterMap_call?_told]
    rfl
  | paused hphase =>
    rw [isReading_of_phase hphase]
    rfl
  | closed hphase =>
    rw [isReading_of_phase hphase, List.filterMap_append, filterMap_call?_told]
    rfl
  | broken hphase =>
    rw [isReading_of_phase hphase]
    rfl
  | elapsed hphase | switchedOn hphase hposted | retried hphase hposted =>
    have hbefore : f.isReading = false := by rw [isReading, hphase]
    rw [hbefore, isReading_resume, if_pos rfl, List.filterMap_nil]
  | switchedOff hlooks hposted =>
    rw [filterMap_call?_parting, isReading_resume]
    cases f.isReading <;> rfl
  | stayed hphase hposted => exact (if_pos rfl).symm
  | ended hlooks hposted habandoned =>
    rw [filterMap_call?_parting]
    cases f.isReading <;> rfl

/-- The dashboard takes the feed for connected as it was told last. -/
theorem connected_foldl_hear (d : Dashboard) (reports : List FeedReport) :
    (reports.foldl Dashboard.hear d).connected =
      ((reports.filterMap call?).getLast?).getD d.connected := by
  induction reports using List.reverseRecOn with
  | nil => rfl
  | append_singleton reports report ih =>
    rw [List.foldl_append, List.filterMap_append]
    cases report with
    | connected connected => simp [call?, Dashboard.hear, Dashboard.setConnected]
    | line text =>
      have hkeeps (d : Dashboard) : (d.hear (.line text)).connected = d.connected := by
        rw [Dashboard.hear, Dashboard.receiveText, Dashboard.connected_receive]
      simpa [call?, hkeeps] using ih

/-! ### Along a history -/

/-- The switch that is posted. -/
def Action.posted? : Action → Option FeedSwitch
  | .post switch => some switch
  | _ => none

/-- What a history keeps: the switches that were posted leave the queue in their order, the feed is
switched as the last of them says, and the dashboard takes it for connected as it was told last,
which is while the feed reads; it is told so by turns. -/
structure Obedient (autoConnect : Bool) (posted : List FeedSwitch) (h : History) : Prop where
  apt : Apt h.feed
  posted_eq : posted = h.consumed ++ h.feed.posted
  enabled_eq : h.feed.enabled = lastSays h.consumed autoConnect
  connected_eq : h.dashboard.connected = h.feed.isReading
  getLast?_calls : (false :: h.calls).getLast? = some h.feed.isReading
  isChain_calls : (false :: h.calls).IsChain (· ≠ ·)

variable {autoConnect : Bool} {posted : List FeedSwitch} {h : History}

theorem obedient_start (s : FeedSettings) (settings : DashboardSettings) :
    Obedient s.autoConnect [] (.start s settings) where
  apt := apt_resume _
  posted_eq := rfl
  enabled_eq := rfl
  connected_eq := (isReading_resume _).symm
  getLast?_calls := congrArg some (isReading_resume _).symm
  isChain_calls := .singleton _

/-- What an input takes from the queue is consumed. -/
theorem consumed_next_input {input : FeedInput} {looked : List FeedSwitch}
    (hposted : h.feed.posted = looked ++ (h.feed.react input).1.posted) :
    (h.next (.input input)).consumed = h.consumed ++ looked := by
  change h.consumed ++
    h.feed.posted.take (h.feed.posted.length - (h.feed.react input).1.posted.length) = _
  rw [hposted, List.length_append, Nat.add_sub_cancel, List.take_left]

theorem Obedient.next_input (hobedient : Obedient autoConnect posted h) (input : FeedInput) :
    Obedient autoConnect posted (h.next (.input input)) := by
  have hstep := h.feed.step_react input
  have hfeed : (h.next (.input input)).feed = (h.feed.react input).1 := rfl
  have hcalls : false :: (h.next (.input input)).calls =
      (false :: h.calls) ++ (h.feed.react input).2.filterMap call? :=
    congrArg (false :: ·) List.filterMap_append
  obtain ⟨looked, hposted, henabled⟩ := hstep.exists_looked hobedient.apt
  have hconsumed := consumed_next_input hposted
  refine ⟨hobedient.apt.step hstep, ?_, ?_, ?_, ?_, ?_⟩
  · rw [hconsumed, hfeed, List.append_assoc, ← hposted, hobedient.posted_eq]
  · rw [hconsumed, hfeed, lastSays_append, ← hobedient.enabled_eq, henabled]
  · change ((h.feed.react input).2.foldl Dashboard.hear h.dashboard).connected = _
    rw [connected_foldl_hear, hobedient.connected_eq, hstep.calls, hfeed]
    split_ifs with hsame
    · exact hsame
    · rfl
  · rw [hcalls, List.getLast?_append, hobedient.getLast?_calls, hstep.calls, hfeed]
    split_ifs with hsame
    · exact congrArg some hsame
    · rfl
  · rw [hcalls, List.isChain_append, hobedient.getLast?_calls, hstep.calls]
    refine ⟨hobedient.isChain_calls, ?_⟩
    split_ifs with hsame
    · exact ⟨.nil, fun _ _ ↦ nofun⟩
    · refine ⟨.singleton _, ?_⟩
      rintro _ ⟨⟩ _ ⟨⟩
      exact hsame

theorem Obedient.next (hobedient : Obedient autoConnect posted h) (action : Action) :
    Obedient autoConnect (posted ++ action.posted?.toList) (h.next action) := by
  cases action with
  | input input =>
    rw [show (Action.input input).posted?.toList = [] from rfl, List.append_nil]
    exact hobedient.next_input input
  | post switch =>
    exact { hobedient with
      posted_eq := by rw [hobedient.posted_eq, List.append_assoc]; rfl }
  | abandon =>
    exact { hobedient with
      posted_eq := (List.append_nil posted).trans hobedient.posted_eq }
  | meanwhile operation hother =>
    exact { hobedient with
      posted_eq := (List.append_nil posted).trans hobedient.posted_eq
      connected_eq := (h.dashboard.connected_perform hother).trans hobedient.connected_eq }

theorem obedient_run (s : FeedSettings) (settings : DashboardSettings) (actions : List Action) :
    Obedient s.autoConnect (actions.filterMap Action.posted?)
      ((History.start s settings).run actions) := by
  induction actions using List.reverseRecOn with
  | nil => exact obedient_start s settings
  | append_singleton actions action ih =>
    have hnext := ih.next action
    rw [History.run_append, List.filterMap_append]
    cases action <;> exact hnext

/-- The switches consumed later come after those consumed before. -/
theorem exists_consumed_run (h : History) (actions : List Action) :
    ∃ since, (h.run actions).consumed = h.consumed ++ since := by
  induction actions using List.reverseRecOn with
  | nil => exact ⟨[], (List.append_nil _).symm⟩
  | append_singleton actions action ih =>
    obtain ⟨since, hsince⟩ := ih
    rw [History.run_append]
    cases action with
    | input input => exact ⟨_, (congrArg (· ++ _) hsince).trans (List.append_assoc _ _ _)⟩
    | _ => exact ⟨since, hsince⟩

/-- After the switch to be off a feed is off until it has looked at a switch to be on. -/
theorem lastSays_eq_false {before since : List FeedSwitch} (hoff : before.getLast? = some .off)
    (hsince : .on ∉ since) (enabled : Bool) : lastSays (before ++ since) enabled = false := by
  rw [lastSays, List.getLast?_append]
  cases hlast : since.getLast? with
  | none =>
    rw [hoff]
    rfl
  | some switch =>
    cases switch with
    | on => exact absurd (List.mem_of_getLast? hlast) hsince
    | off => rfl

/-- A feed obeys the last switch that it has looked at, whatever happens and in whichever order. The
switches that were posted are looked at in their order, each at most once, and the next one as soon
as the feed looks for it; the feed is switched on if the last of them says so, or as it was set if
it has looked at none; it tries to connect only while it is switched on, so not after a switch to be
off until it has looked at one to be on. The dashboard takes it for connected exactly while it reads
a connection, as it is told by turns. -/
theorem History.obeys_run (s : FeedSettings) (settings : DashboardSettings)
    (actions : List Action) :
    let h := (start s settings).run actions
    actions.filterMap Action.posted? = h.consumed ++ h.feed.posted ∧
    (∀ switch rest, h.feed.posted = switch :: rest → h.feed.Looks →
      (h.next (.input .switch)).consumed = h.consumed ++ [switch]) ∧
    h.feed.enabled = lastSays h.consumed s.autoConnect ∧
    (h.feed.phase = .connecting → h.feed.enabled = true) ∧
    (∀ later : List Action, ∃ since, (h.run later).consumed = h.consumed ++ since ∧
      (h.consumed.getLast? = some .off → .on ∉ since →
        (h.run later).feed.phase ≠ .connecting)) ∧
    (h.dashboard.connected = true ↔ ∃ lines, h.feed.phase = .reading lines) ∧
    (false :: h.calls).IsChain (· ≠ ·) ∧
    (false :: h.calls).getLast? = some h.dashboard.connected ∧
    (h.feed.enabled = false ∨ (∃ delay, h.feed.phase = .waiting delay) ∨ h.feed.phase = .ended →
      h.dashboard.connected = false) := by
  intro h
  have hobedient : Obedient s.autoConnect _ h := obedient_run s settings actions
  refine ⟨hobedient.posted_eq, fun switch rest hposted hlooks ↦ ?_, hobedient.enabled_eq,
    hobedient.apt.enabled_of_connecting, ?_, ?_, hobedient.isChain_calls, ?_, ?_⟩
  · refine consumed_next_input (hposted.trans ?_)
    rw [show (h.feed.react .switch).1.posted = rest from posted_obey hlooks hposted]
    rfl
  · intro later
    obtain ⟨since, hsince⟩ := exists_consumed_run h later
    refine ⟨since, hsince, fun hoff hnone hconnecting ↦ ?_⟩
    have hlater := obedient_run s settings (actions ++ later)
    rw [run_append] at hlater
    change Obedient _ _ (h.run later) at hlater
    have henabled := hlater.apt.enabled_of_connecting hconnecting
    rw [hlater.enabled_eq, hsince, lastSays_eq_false hoff hnone] at henabled
    cases henabled
  · rw [hobedient.connected_eq, isReading_iff]
  · rw [hobedient.connected_eq, hobedient.getLast?_calls]
  · rw [hobedient.connected_eq]
    rintro (hoff | ⟨delay, hwaiting⟩ | hended)
    · exact hobedient.apt.isReading_of_off hoff
    · rw [isReading, hwaiting]
    · rw [isReading, hended]

/-- A feed is switched off while it reads, and on again. -/
theorem History.obeys_run_switched :
    let actions : List Action := [.input (.attempted true), .post .off, .post .on, .input .switch]
    let h := (start {} {}).run actions
    h.consumed = [.off] ∧ h.calls = [true, false] ∧ h.dashboard.connected = false ∧
      (h.run [.input .elapsed]).feed.phase ≠ .connecting ∧
      (h.next (.input .switch)).consumed = [.off, .on] ∧
      (h.next (.input .switch)).feed.phase = .connecting := by
  intro actions h
  obtain ⟨-, hlooked, -, -, hlater, -, -, -, hdisconnected⟩ := obeys_run {} {} actions
  obtain ⟨since, hsince, hnever⟩ := hlater [.input .elapsed]
  have hnone : since = [] := List.append_cancel_left (hsince.symm.trans rfl)
  have hlooks : h.feed.Looks := ⟨nofun, nofun⟩
  exact ⟨rfl, rfl, hdisconnected (.inl rfl), hnever rfl (by rw [hnone]; nofun),
    hlooked .on [] rfl hlooks, rfl⟩

end QueryWatch.Feed

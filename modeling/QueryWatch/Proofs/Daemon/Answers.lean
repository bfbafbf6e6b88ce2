import QueryWatch.Proofs.Dashboard.Addressed
import QueryWatch.Proofs.Dashboard.Messages

/-!
What the daemon answers. `Objection` lists the reasons for which a request is refused, each with the
error that is answered and with what is counted, if anything is; `Answered` says that a request is
refused for one of them, or is answered with data after the dashboard went through a run of its own
(`answered`). So what holds of every dashboard that a run reaches holds behind the daemon.
-/

set_option autoImplicit false

namespace QueryWatch

/-! ### Requests that are refused -/

/-- There is no record of a command, in any generation of a connection. -/
def Store.Lacks (s : Store) (p : CommandAddress) : Prop :=
  ∀ generation, s.record? ⟨⟨p.connection, generation⟩, p.command⟩ = none

namespace Store

variable {s : Store} {p : CommandAddress}

theorem Coherent.newestRecord?_eq_none_iff (hs : s.Coherent) :
    s.newestRecord? p.connection p.command = none ↔ s.Lacks p := by
  constructor
  · intro hnone generation
    rw [Option.eq_none_iff_forall_ne_some]
    intro r hr
    obtain ⟨newest, hnewest⟩ := hs.exists_newestRecord? ⟨generation, hr⟩
    rw [hnone] at hnewest
    cases hnewest
  · intro hlacks
    rw [Option.eq_none_iff_forall_ne_some]
    intro r hr
    obtain ⟨generation, hfound⟩ := (hs.newestRecord?_eq_some_iff.mp hr).1
    rw [hlacks generation] at hfound
    cases hfound

end Store

namespace Request

/-- The parameters of a request are refused. -/
def ParamsRefused (r : Request) (e : ParamsError) : Prop :=
  match r.method with
  | .event => r.params = none ∧ e = .eventMissing
  | .setFilter => Params.parse Params.readFilter .setFilter r.params = .error e
  | .selectSession => Params.parse Params.readSession .selectSession r.params = .error e
  | .toggleExpand => Params.parse Params.readCommand .toggleExpand r.params = .error e
  | .getQuery => Params.parse Params.readCommand .getQuery r.params = .error e
  | .execute => Params.parseExecute r.params = .error e
  | _ => False

/-- A request brings a message that is refused. -/
def BringsRefused (r : Request) (refusal : Refusal) : Prop :=
  r.method = .event ∧ ∃ j, r.params = some j ∧ Event.decode j = .error refusal

/-- A request is about a command, to show it in full or short. -/
def Toggles (r : Request) (p : CommandAddress) : Prop :=
  r.method = .toggleExpand ∧ Params.parse Params.readCommand .toggleExpand r.params = .ok p

/-- A request is about a command, to execute it again. -/
def Executes (r : Request) (p : CommandAddress) : Prop :=
  r.method = .execute ∧ Params.parseExecute r.params = .ok (.recorded p)

/-- A request is about a command, to read its text. -/
def AsksFor (r : Request) (p : CommandAddress) : Prop :=
  r.method = .getQuery ∧ Params.parse Params.readCommand .getQuery r.params = .ok p

end Request

/-- Why a request is refused, with the error that is answered and the dashboard after it. -/
inductive Objection (d : Dashboard) (r : Request) : ErrorReport → Dashboard → Prop
  | version (hversion : r.version ≠ protocolVersion) :
    Objection d r ⟨"protocol_mismatch", "unsupported protocol version"⟩ d
  | params {e : ParamsError} (hversion : r.version = protocolVersion)
    (hparams : r.ParamsRefused e) : Objection d r e.report d
  | message {refusal : Refusal} (hversion : r.version = protocolVersion)
    (hrefused : r.BringsRefused refusal) :
    Objection d r refusal.report { d with protocolErrors := d.protocolErrors + 1 }
  | toggle {p : CommandAddress} (hversion : r.version = protocolVersion) (htoggles : r.Toggles p)
    (hlacks : d.store.Lacks p) :
    Objection d r
      ⟨"query_not_found",
        "no query " ++ toString p.command.toNat ++ " on connection " ++ p.connection⟩
      { d with unknownToggles := d.unknownToggles + 1 }
  | unknown {p : CommandAddress} (hversion : r.version = protocolVersion)
    (habout : r.Executes p ∨ r.AsksFor p) (hlacks : d.store.Lacks p) :
    Objection d r (Failure.queryNotFound p.connection p.command).report d
  | notExecutable {p : CommandAddress} {record : RecordedQuery}
    (hversion : r.version = protocolVersion) (hexecutes : r.Executes p)
    (hrecord : d.store.newestRecord? p.connection p.command = some record)
    (hnot : record.query.executable = false) :
    Objection d r (Failure.notExecutable p.connection p.command).report d
  | feed {failure : Failure} (hversion : r.version = protocolVersion)
    (hfeed : r.method = .connect ∧ d.switchFeedOn = .error failure ∨
      r.method = .disconnect ∧ d.switchFeedOff = .error failure) :
    Objection d r failure.report d

namespace Daemon

variable {d : Daemon} {r : Request}

/-- What a request leads to: it is refused, or it is answered with data after a run of the
dashboard, which is none at all where something is only read. -/
inductive Answered (d : Daemon) (r : Request) : Reply → Prop
  | refused {report : ErrorReport} {dashboard : Dashboard}
    (hobjection : Objection d.dashboard r report dashboard) :
    Answered d r ⟨.failure r.id report, none, d.setDashboard dashboard⟩
  | done {data : Json} {switch : Option FeedSwitch} (steps : List Dashboard.Operation)
    (hread : r.method = .getHealth ∨ r.method = .getView ∨ r.method = .getQuery → steps = []) :
    Answered d r ⟨.success r.id data, switch, d.setDashboard (d.dashboard.run steps)⟩

theorem Answered.of_run {data : Json} {dashboard : Dashboard} (steps : List Dashboard.Operation)
    (hrun : d.dashboard.run steps = dashboard)
    (hread : r.method = .getHealth ∨ r.method = .getView ∨ r.method = .getQuery → steps = []) :
    Answered d r (d.done r.id data dashboard) := by
  subst hrun
  exact .done steps hread

/-! ### Each method -/

/-- A command that has no record is counted when it is to be shown in full or short. -/
theorem answerToggle_of_lacks (hs : d.dashboard.store.Coherent) {p : CommandAddress}
    (hlacks : d.dashboard.store.Lacks p) (id : Option String) :
    d.answerToggle id p =
      ⟨.failure id
        ⟨"query_not_found",
          "no query " ++ toString p.command.toNat ++ " on connection " ++ p.connection⟩,
        none, d.setDashboard
          { d.dashboard with unknownToggles := d.dashboard.unknownToggles + 1 }⟩ := by
  have hnone := hs.newestRecord?_eq_none_iff.mpr hlacks
  rw [answerToggle, Dashboard.toggle_of_newestRecord?_eq_none hnone]

section Methods

variable (hversion : r.version = protocolVersion)

include hversion

/-- Parameters that are refused are an objection; with others the request goes on. -/
theorem answered_withParams {α : Type} {params : Except ParamsError α} {go : α → Reply}
    (hrefused : ∀ e, params = .error e → r.ParamsRefused e)
    (hgo : ∀ p, params = .ok p → Answered d r (go p)) :
    Answered d r (d.withParams r.id params go) := by
  cases params with
  | error e => exact .refused (.params hversion (hrefused e rfl))
  | ok p => exact hgo p rfl

/-- Steering the feed fails as the feed says, and does nothing to the dashboard. -/
theorem answered_feed {word : String} {asked : Except Failure (Option FeedSwitch)}
    (hasked : ∀ failure, asked = .error failure →
      r.method = .connect ∧ d.dashboard.switchFeedOn = .error failure ∨
        r.method = .disconnect ∧ d.dashboard.switchFeedOff = .error failure) :
    Answered d r (d.answerFeed r.id word asked) := by
  cases asked with
  | error failure => exact .refused (.feed hversion (hasked failure rfl))
  | ok switch => exact .done [] fun _ ↦ rfl

variable (hs : d.dashboard.store.Coherent)

include hs

theorem answered_event (hmethod : r.method = .event) :
    Answered d r (d.answerEvent r.id r.params) := by
  unfold answerEvent
  cases hparams : r.params with
  | none =>
    refine .refused (.params hversion ?_)
    simp only [Request.ParamsRefused, hmethod, hparams, true_and]
  | some j =>
    dsimp only
    cases hdecoded : Event.decode j with
    | error refusal =>
      rw [Dashboard.receiveValue, hdecoded, Dashboard.receive_refused]
      exact .refused (.message hversion ⟨hmethod, j, hparams, hdecoded⟩)
    | ok e =>
      obtain ⟨outcome, -, hreceive⟩ := Dashboard.exists_receive_ok hs e
      have hrun : d.dashboard.run [.value j] = (d.dashboard.receive (Event.decode j)).2 := rfl
      rw [Dashboard.receiveValue, hdecoded, hreceive]
      rw [hdecoded, hreceive] at hrun
      exact .of_run [.value j] hrun (by simp [hmethod])

theorem answered_toggle {p : CommandAddress} (htoggles : r.Toggles p) :
    Answered d r (d.answerToggle r.id p) := by
  cases hrecord : d.dashboard.store.newestRecord? p.connection p.command with
  | none =>
    have hlacks := hs.newestRecord?_eq_none_iff.mp hrecord
    rw [answerToggle_of_lacks hs hlacks]
    exact .refused (.toggle hversion htoggles hlacks)
  | some record =>
    have htoggle := Dashboard.toggle_of_newestRecord? hs hrecord
    have hrun : d.dashboard.run [.toggle p.connection p.command] =
        (d.dashboard.toggle p.connection p.command).2 := rfl
    rw [htoggle] at hrun
    rw [answerToggle, htoggle]
    exact .of_run [.toggle p.connection p.command] hrun (by simp [htoggles.1])

theorem answered_query {p : CommandAddress} (hasks : r.AsksFor p) :
    Answered d r (d.answerQuery r.id p) := by
  unfold answerQuery Dashboard.queryText?
  cases hrecord : d.dashboard.store.newestRecord? p.connection p.command with
  | none =>
    exact .refused (.unknown hversion (Or.inr hasks) (hs.newestRecord?_eq_none_iff.mp hrecord))
  | some record => exact .done [] fun _ ↦ rfl

theorem answered_executeRecorded {p : CommandAddress} (hexecutes : r.Executes p)
    (time : Timestamp) : Answered d r (d.answerExecute r.id (.recorded p) time) := by
  cases hrecord : d.dashboard.store.newestRecord? p.connection p.command with
  | none =>
    have hlacks := hs.newestRecord?_eq_none_iff.mp hrecord
    simp only [answerExecute, Dashboard.executeRecorded_of_newestRecord?_eq_none hrecord]
    exact .refused (.unknown hversion (Or.inl hexecutes) hlacks)
  | some record =>
    cases hexecutable : record.query.executable with
    | false =>
      simp only [answerExecute,
        Dashboard.executeRecorded_of_executable_eq_false hrecord hexecutable]
      exact .refused (.notExecutable hversion hexecutes hrecord hexecutable)
    | true =>
      have hexecuted := Dashboard.executeRecorded_of_executable hrecord hexecutable time
      have hperform : d.dashboard.perform (.executeRecorded p.connection p.command time) =
          (d.dashboard.execute record.query.request time).2 := by
        rw [Dashboard.perform, hexecuted]
      simp only [answerExecute, hexecuted]
      exact .of_run [.executeRecorded p.connection p.command time] hperform
        (by simp [hexecutes.1])

/-- A request of the right version is refused for one of the other reasons, or is answered. -/
theorem answered_perform (now : Moment) : Answered d r (d.perform r now) := by
  unfold perform
  cases hmethod : r.method with
  | getHealth => exact .of_run [] rfl fun _ ↦ rfl
  | event => exact answered_event hversion hs hmethod
  | getView => exact .of_run [] rfl fun _ ↦ rfl
  | setFilter =>
    refine answered_withParams hversion (by simp [Request.ParamsRefused, hmethod]) fun p _ ↦ ?_
    unfold answerFilter
    cases p.immediate with
    | false => exact .of_run [.filterChanged p.text now.instant] rfl (by simp [hmethod])
    | true =>
      exact .of_run [.filterChanged p.text now.instant, .commitFilter] rfl (by simp [hmethod])
  | selectSession =>
    refine answered_withParams hversion (by simp [Request.ParamsRefused, hmethod]) fun p _ ↦ ?_
    exact .of_run [.select p.connection] rfl (by simp [hmethod])
  | toggleExpand =>
    refine answered_withParams hversion (by simp [Request.ParamsRefused, hmethod]) fun p hp ↦ ?_
    exact answered_toggle hversion hs ⟨hmethod, hp⟩
  | toggleExpandAll => exact .of_run [.toggleAll] rfl (by simp [hmethod])
  | clear => exact .of_run [.clear] rfl (by simp [hmethod])
  | connect => exact answered_feed hversion fun failure hfailed ↦ Or.inl ⟨hmethod, hfailed⟩
  | disconnect => exact answered_feed hversion fun failure hfailed ↦ Or.inr ⟨hmethod, hfailed⟩
  | execute =>
    refine answered_withParams hversion (by simp [Request.ParamsRefused, hmethod]) fun p hp ↦ ?_
    cases p with
    | adHoc request => exact .of_run [.execute request now.time] rfl (by simp [hmethod])
    | recorded p => exact answered_executeRecorded hversion hs ⟨hmethod, hp⟩ now.time
  | getQuery =>
    refine answered_withParams hversion (by simp [Request.ParamsRefused, hmethod]) fun p hp ↦ ?_
    exact answered_query hversion hs ⟨hmethod, hp⟩

end Methods

/-- A request is refused for one of the reasons there are, or is answered with data. -/
theorem answered (hs : d.dashboard.store.Coherent) (r : Request) (now : Moment) :
    Answered d r (d.answer r now) := by
  unfold answer
  by_cases hversion : r.version = protocolVersion
  · rw [if_pos hversion]
    exact answered_perform hversion hs now
  · rw [if_neg hversion]
    exact .refused (.version hversion)

end Daemon
end QueryWatch

import QueryWatch.Proofs.Daemon.Answers

/-!
Runs of a daemon: requests mixed with all that can happen to its dashboard otherwise. Every daemon
that a run reaches has a coherent history (`coherent_run`), so each request is answered with its id
and either data or an error, and a request that is refused changes nothing but the count of refused
messages or of unknown commands (`refused_run`).
-/

set_option autoImplicit false

namespace QueryWatch

/-- What is counted for an objection leaves the history as it is. -/
theorem Objection.store_eq {d t : Dashboard} {r : Request} {report : ErrorReport}
    (h : Objection d r report t) : t.store = d.store := by
  cases h <;> rfl

namespace Daemon

variable {d : Daemon} {r : Request}

/-! ### Runs -/

/-- What can happen to a daemon: a request comes, or something else happens to the dashboard. -/
inductive Operation
  | request (r : Request) (now : Moment)
  | meanwhile (operation : Dashboard.Operation)

/-- The daemon after an operation. -/
def operate (d : Daemon) : Operation → Daemon
  | .request r now => (d.answer r now).daemon
  | .meanwhile operation => d.setDashboard (d.dashboard.perform operation)

def run (d : Daemon) (operations : List Operation) : Daemon := operations.foldl operate d

/-- A daemon that has just been started. -/
def ofSettings (settings : DashboardSettings) (startedAt : Timestamp) (processId : Nat) : Daemon :=
  ⟨.ofSettings settings, startedAt, processId⟩

theorem coherent_operate (hs : d.dashboard.store.Coherent) (operation : Operation) :
    (d.operate operation).dashboard.store.Coherent := by
  cases operation with
  | request r now =>
    have hanswered := answered hs r now
    unfold operate
    dsimp only
    generalize d.answer r now = reply at hanswered ⊢
    cases hanswered with
    | @refused report dashboard hobjection =>
      change dashboard.store.Coherent
      rw [hobjection.store_eq]
      exact hs
    | done steps hread => exact Dashboard.coherent_run hs steps
  | meanwhile operation => exact Dashboard.coherent_run hs [operation]

theorem coherent_run (hs : d.dashboard.store.Coherent) (operations : List Operation) :
    (d.run operations).dashboard.store.Coherent := by
  induction operations generalizing d with
  | nil => exact hs
  | cons operation operations ih => exact ih (coherent_operate hs operation)

/-! ### Objections -/

/-- Parameters that are refused are answered with why. -/
theorem answer_of_paramsRefused {e : ParamsError} (hversion : r.version = protocolVersion)
    (hparams : r.ParamsRefused e) (now : Moment) : d.answer r now = d.refuse r.id e.report := by
  rw [answer, if_pos hversion]
  unfold perform
  unfold Request.ParamsRefused at hparams
  -- where a method has no parameters, none are refused
  cases hmethod : r.method <;> simp only [hmethod] at hparams ⊢
  case event => rw [hparams.1, hparams.2, answerEvent.eq_def]
  all_goals rw [hparams, withParams]

/-- A message that is refused is answered with why, and counted. -/
theorem answer_of_bringsRefused {refusal : Refusal} (hversion : r.version = protocolVersion)
    (hrefused : r.BringsRefused refusal) (now : Moment) :
    d.answer r now = ⟨.failure r.id refusal.report, none, d.setDashboard
      { d.dashboard with protocolErrors := d.dashboard.protocolErrors + 1 }⟩ := by
  obtain ⟨version, method, id, params⟩ := r
  obtain ⟨hmethod, j, hparams, hdecoded⟩ := hrefused
  dsimp only at hversion hmethod hparams
  subst hversion hmethod hparams
  rw [answer_event, Dashboard.receiveValue, hdecoded, Dashboard.receive_refused]
  rfl

/-- An objection is answered, and nothing else is done than what it counts. -/
theorem answer_of_objection (hs : d.dashboard.store.Coherent) {report : ErrorReport}
    {dashboard : Dashboard} (h : Objection d.dashboard r report dashboard) (now : Moment) :
    d.answer r now = ⟨.failure r.id report, none, d.setDashboard dashboard⟩ := by
  cases h with
  | version hversion => exact if_neg hversion
  | params hversion hparams => exact answer_of_paramsRefused hversion hparams now
  | message hversion hrefused => exact answer_of_bringsRefused hversion hrefused now
  | @toggle p hversion htoggles hlacks =>
    rw [answer, if_pos hversion, ← answerToggle_of_lacks hs hlacks]
    simp only [perform, htoggles.1, htoggles.2, withParams]
  | @unknown p hversion habout hlacks =>
    have hnone := hs.newestRecord?_eq_none_iff.mpr hlacks
    rw [answer, if_pos hversion]
    rcases habout with hexecutes | hasks
    · simp only [perform, hexecutes.1, hexecutes.2, withParams, answerExecute,
        Dashboard.executeRecorded_of_newestRecord?_eq_none hnone]
      rfl
    · simp only [perform, hasks.1, hasks.2, withParams, answerQuery, Dashboard.queryText?, hnone]
      rfl
  | @notExecutable p record hversion hexecutes hrecord hnot =>
    rw [answer, if_pos hversion]
    simp only [perform, hexecutes.1, hexecutes.2, withParams, answerExecute,
      Dashboard.executeRecorded_of_executable_eq_false hrecord hnot]
    rfl
  | @feed failure hversion hfeed =>
    rw [answer, if_pos hversion]
    rcases hfeed with ⟨hmethod, hfailed⟩ | ⟨hmethod, hfailed⟩
    · simp only [perform, hmethod, hfailed, answerFeed]
      rfl
    · simp only [perform, hmethod, hfailed, answerFeed]
      rfl

/-! ### Refused requests -/

/-- In every daemon that a run reaches, a request is answered with its id and with either data or an
error, and with an error exactly if there is an objection to it. A request that is refused changes
nothing and switches nothing, except that a message that is refused is counted, and so is a command
without a record that is to be shown in full or short. Asking for the health, the view or the text
of a query never changes anything. -/
theorem refused_run (settings : DashboardSettings) (startedAt : Timestamp) (processId : Nat)
    (operations : List Operation) (r : Request) (now : Moment) :
    let d := (ofSettings settings startedAt processId).run operations
    let reply := d.answer r now
    (reply.response.id = r.id ∧ reply.response.data.isSome = reply.response.ok ∧
        reply.response.error.isSome = !reply.response.ok) ∧
      (reply.response.ok = false ↔
        ∃ report dashboard, Objection d.dashboard r report dashboard) ∧
      (reply.response.ok = false → reply.switch = none ∧
        (∀ refusal, r.version = protocolVersion → r.BringsRefused refusal →
          reply.daemon = d.setDashboard
            { d.dashboard with protocolErrors := d.dashboard.protocolErrors + 1 }) ∧
        (∀ p, r.version = protocolVersion → r.Toggles p → d.dashboard.store.Lacks p →
          reply.daemon = d.setDashboard
            { d.dashboard with unknownToggles := d.dashboard.unknownToggles + 1 }) ∧
        ((∀ refusal, r.version = protocolVersion → ¬r.BringsRefused refusal) →
          (∀ p, r.version = protocolVersion → r.Toggles p → ¬d.dashboard.store.Lacks p) →
          reply.daemon = d)) ∧
      (r.method = .getHealth ∨ r.method = .getView ∨ r.method = .getQuery → reply.daemon = d) := by
  intro d reply
  have hs : d.dashboard.store.Coherent := coherent_run (Store.coherent_empty _) operations
  have hanswered : Answered d r reply := answered hs r now
  have hobjected {report : ErrorReport} {dashboard : Dashboard}
      (h : Objection d.dashboard r report dashboard) :
      reply = ⟨.failure r.id report, none, d.setDashboard dashboard⟩ := answer_of_objection hs h now
  generalize reply = reply at hanswered hobjected
  cases hanswered with
  | done steps hread =>
    refine ⟨⟨rfl, rfl, rfl⟩, ⟨nofun, ?_⟩, nofun, fun hmethod ↦ ?_⟩
    · rintro ⟨report, dashboard, h⟩
      cases hobjected h
    · rw [hread hmethod]
      rfl
  | @refused report dashboard h =>
    refine ⟨⟨rfl, rfl, rfl⟩, ⟨fun _ ↦ ⟨report, dashboard, h⟩, fun _ ↦ rfl⟩,
      fun _ ↦ ⟨rfl, fun refusal hversion hrefused ↦ ?_, fun p hversion htoggles hlacks ↦ ?_,
        fun hmessage htoggle ↦ ?_⟩, fun hmethod ↦ ?_⟩
    · exact congrArg Reply.daemon (hobjected (.message hversion hrefused))
    · exact congrArg Reply.daemon (hobjected (.toggle hversion htoggles hlacks))
    · cases h with
      | message hversion hrefused => exact absurd hrefused (hmessage _ hversion)
      | toggle hversion htoggles hlacks => exact absurd hlacks (htoggle _ hversion htoggles)
      | _ => rfl
    · cases h with
      | message hversion hrefused => simp [hrefused.1] at hmethod
      | toggle hversion htoggles hlacks => simp [htoggles.1] at hmethod
      | _ => rfl

/-- A message that is none, a command that is not there, and a query that is not executable, at a
daemon that knows of one query. -/
theorem refused_run_counted :
    let now : Moment := ⟨0, ⟨0, 0⟩⟩
    let issue := Json.object [("CmdId", Json.nat 3), ("ConnId", Json.nat 1),
      ("Query", .string "select 1")]
    let d := (ofSettings {} ⟨0, 0⟩ 7).run [.request ⟨1, .event, none, some issue⟩ now]
    let address (command : Nat) := some <| Json.object
      [("command_id", Json.nat command), ("connection_id", .string "1")]
    (Request.BringsRefused ⟨1, .event, none, some .null⟩ .notObject ∧
      (d.answer ⟨1, .event, none, some .null⟩ now).daemon =
        d.setDashboard { d.dashboard with protocolErrors := 1 }) ∧
    (Request.Toggles ⟨1, .toggleExpand, some "a", address 4⟩ ⟨"1", 4⟩ ∧
      d.dashboard.store.Lacks ⟨"1", 4⟩ ∧
      (d.answer ⟨1, .toggleExpand, some "a", address 4⟩ now).daemon =
        d.setDashboard { d.dashboard with unknownToggles := 1 }) ∧
    ((d.answer ⟨1, .execute, some "b", address 3⟩ now).response.ok = false ∧
      (d.answer ⟨1, .execute, some "b", address 3⟩ now).daemon = d) ∧
    (d.answer ⟨1, .getQuery, some "c", address 3⟩ now).daemon = d := by
  intro now issue d address
  have hs : d.dashboard.store.Coherent := coherent_run (Store.coherent_empty _) _
  have hmessage : Request.BringsRefused ⟨1, .event, none, some .null⟩ .notObject :=
    ⟨rfl, .null, rfl, rfl⟩
  have htoggles : Request.Toggles ⟨1, .toggleExpand, some "a", address 4⟩ ⟨"1", 4⟩ := ⟨rfl, rfl⟩
  have hlacks : d.dashboard.store.Lacks ⟨"1", 4⟩ :=
    hs.newestRecord?_eq_none_iff.mp (by decide +kernel)
  have hok : (d.answer ⟨1, .execute, some "b", address 3⟩ now).response.ok = false := by
    decide +kernel
  have hrun := refused_run {} ⟨0, 0⟩ 7 [.request ⟨1, .event, none, some issue⟩ now]
  refine ⟨⟨hmessage, ?_⟩, ⟨htoggles, hlacks, ?_⟩, ⟨hok, ?_⟩, ?_⟩
  · exact ((hrun ⟨1, .event, none, some .null⟩ now).2.2.1 rfl).2.1 _ rfl hmessage
  · exact ((hrun ⟨1, .toggleExpand, some "a", address 4⟩ now).2.2.1 (by decide +kernel)).2.2.1 _ rfl
      htoggles hlacks
  · exact ((hrun ⟨1, .execute, some "b", address 3⟩ now).2.2.1 hok).2.2.2
      (by simp [Request.BringsRefused]) (by simp [Request.Toggles])
  · exact (hrun ⟨1, .getQuery, some "c", address 3⟩ now).2.2.2 (by simp)

end Daemon
end QueryWatch

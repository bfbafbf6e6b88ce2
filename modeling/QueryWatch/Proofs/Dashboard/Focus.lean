import QueryWatch.Proofs.Dashboard.Undisturbed

/-!
Where the focus of a dashboard goes. What asks for it is kept in order since the dashboard was last
cleared (`calls`): a connection was chosen, or a session opened on it. Which sessions an event opens
is seen by the history alone, as those that stand behind the others afterwards, and that is what the
event says of itself (`Store.Coherent.ids_receive`). The focus is then what its policy makes of the
calls (`FocusPolicy.due`): this holds at the start, every operation keeps it (`Attentive.perform`),
and so it holds along every run (`due_run`). What does not call leaves the focus where it is
(`Attentive.focus_perform`).
-/

set_option autoImplicit false

namespace QueryWatch

/-! ### What an event opens -/

namespace Store

variable {s t : Store} {e : Event}

theorem opened_opening (s : Store) (connection : ConnectionId) :
    (s.opening connection).opened = some (s.nextId connection) := by
  unfold opening
  split <;> rfl

/-- A query that is recorded opens the session of which that is said. -/
theorem Indexed.ids_sessionForQuery (hs : s.Indexed) (connection : ConnectionId) :
    (s.sessionForQuery connection).2.2.2.ids =
      s.ids ++ (s.sessionForQuery connection).2.2.1.opened.toList := by
  rcases hs.sessionForQuery_cases connection with ⟨place, x, -, -, heq⟩ | ⟨-, heq⟩
  · rw [heq]
    exact (List.append_nil _).symm
  · rw [heq, opened_opening]
    exact ids_openNext ..

theorem Indexed.ids_applyStage (hs : s.Indexed) (connection : ConnectionId)
    (stage : SessionStage) : (s.applyStage connection stage).2.ids =
      s.ids ++ (s.applyStage connection stage).1.opened.toList := by
  rcases hs.applyStage_cases connection stage with ⟨place, x, -, -, heq⟩ | ⟨-, -, heq⟩
  · rw [heq, SessionEffect.opened, Option.toList_none, List.append_nil]
    exact ids_updateSession (s := s.advance) place fun _ ↦ rfl
  · rw [heq, opened_opening]
    exact ids_openNext ..

theorem ids_receive_result (s : Store) (result : QueryResult) :
    (s.receive (.result result)).ids = s.ids := by
  show (s.applyResult result).2.ids = s.ids
  cases htarget : s.target? result.connection result.command with
  | none =>
    rw [applyResult_of_target?_eq_none htarget]
    exact ids_congr (sessions_buffer ..)
  | some key =>
    rw [applyResult_of_target? htarget]
    exact ids_touch ..

theorem ids_receive_of_isDuplicate {query : Query} (hdup : s.isDuplicate query = true) :
    (s.receive (.issued query)).ids = s.ids := by
  unfold Store.receive Store.apply
  simp only [applyIssued_of_isDuplicate hdup]
  rfl

/-- A connection that has a session gets no other one when it finishes. -/
theorem Indexed.ids_receive_finished (hs : s.Indexed) {connection : ConnectionId}
    (hknown : s.sessionsOf connection ≠ []) :
    (s.receive (.session connection .finished)).ids = s.ids := by
  show (s.applyStage connection .finished).2.ids = s.ids
  rcases hs.applyStage_cases connection .finished with ⟨place, x, -, -, heq⟩ | ⟨-, hstart, -⟩
  · rw [heq]
    exact ids_updateSession (s := s.advance) place fun _ ↦ rfl
  · have hsome : s.generations connection ≠ 0 := by
      rw [generations, idsOf_eq_map_sessionsOf, List.length_map]
      exact fun hzero ↦ hknown (List.eq_nil_of_length_eq_zero hzero)
    cases hstart hsome

/-- Behind the sessions there were stands the one that an event says it opened. -/
theorem Coherent.ids_receive (hs : s.Coherent) {effect : EventEffect}
    (hok : (s.apply e).1 = .ok effect) : (s.receive e).ids = s.ids ++ effect.opened.toList := by
  cases e with
  | session connection stage =>
    cases hok
    exact hs.ids_applyStage connection stage
  | issued query =>
    unfold Store.receive Store.apply at *
    cases hdup : s.isDuplicate query with
    | true =>
      simp only [applyIssued_of_isDuplicate hdup] at hok ⊢
      cases hok
      exact (List.append_nil _).symm
    | false =>
      obtain ⟨place, x, change, t, hquery, -, -, -, heq⟩ := hs.applyIssued_of_not_isDuplicate hdup
      have hids := hs.advance.ids_sessionForQuery query.connection
      rw [hquery] at hids
      simp only [heq] at hok ⊢
      cases hok
      rw [ids_withQuery]
      exact hids
  | result result =>
    cases hok
    rw [EventEffect.opened, Option.toList_none, List.append_nil]
    exact s.ids_receive_result result

/-- A store without sessions has no records either. -/
theorem Coherent.isEmpty_of_ids (hs : s.Coherent) (hnone : s.ids = []) : s.isEmpty = true := by
  have hsessions : s.sessions = [] := List.map_eq_nil_iff.mp hnone
  have hrecords : s.records = ∅ := by
    refine Std.ExtTreeMap.eq_empty_iff_forall_not_mem.mpr fun key hkey ↦ ?_
    obtain ⟨x, hx, -⟩ := (hs.recorded key).mp hkey
    rw [hsessions] at hx
    cases hx
  rw [isEmpty, hsessions, hrecords]
  rfl

end Store

/-! ### What asks for the focus -/

/-- Something that asks for the focus to be on a connection: it was chosen, or a session opened on
it. -/
inductive Call
  | chosen (connection : ConnectionId)
  | opened (connection : ConnectionId)
  deriving DecidableEq, Repr

namespace Call

def connection : Call → ConnectionId
  | chosen connection => connection
  | opened connection => connection

def chosen? : Call → Option ConnectionId
  | chosen connection => some connection
  | opened _ => none

def opened? : Call → Option ConnectionId
  | chosen _ => none
  | opened connection => some connection

end Call

/-- Where a policy has the focus after some calls, when these sessions are there: on the connection
that was chosen last, or else on that of the first session; or on that of the last call. -/
def FocusPolicy.due (policy : FocusPolicy) (sessions : List SessionId) (calls : List Call) :
    Option ConnectionId :=
  match policy with
  | firstSessionWins =>
    (calls.filterMap (·.chosen?)).getLast?.or (sessions.head?.map (·.connection))
  | followNewest => calls.getLast?.map (·.connection)

theorem Focus.policy_opened (f : Focus) (connection : ConnectionId) :
    (f.opened connection).policy = f.policy := by
  unfold Focus.opened
  split <;> rfl

theorem Focus.active_opened (f : Focus) (connection : ConnectionId) :
    (f.opened connection).active = match f.policy with
      | .firstSessionWins => f.active.or (some connection)
      | .followNewest => some connection := by
  unfold Focus.opened Focus.attracts
  cases f.policy with
  | firstSessionWins => cases h : f.active <;> simp [h]
  | followNewest => by_cases h : f.active = some connection <;> simp [h]

namespace Dashboard

variable {d : Dashboard} {earlier : List Call}

/-- The sessions that an operation opens: those that stand behind the others afterwards. -/
def openedBy (d : Dashboard) (operation : Operation) : List SessionId :=
  (d.perform operation).store.ids.drop d.store.ids.length

/-- The calls since the dashboard was last cleared, once an operation is performed on it. -/
def Operation.noted (operation : Operation) (d : Dashboard) (earlier : List Call) : List Call :=
  match operation with
  | clear => []
  | select connection => earlier ++ [.chosen connection]
  | operation => earlier ++ (d.openedBy operation).map fun id ↦ .opened id.connection

/-- The calls since the dashboard was last cleared, when there were some before a run. -/
def callsOnto (d : Dashboard) (earlier : List Call) : List Operation → List Call
  | [] => earlier
  | operation :: rest => (d.perform operation).callsOnto (operation.noted d earlier) rest

/-- The calls of a run since the dashboard was last cleared. -/
def calls (d : Dashboard) (operations : List Operation) : List Call := d.callsOnto [] operations

theorem Operation.noted_eq {operation : Operation} (hclear : operation ≠ .clear)
    (hselect : ∀ connection, operation ≠ .select connection) :
    operation.noted d earlier =
      earlier ++ (d.openedBy operation).map fun id ↦ .opened id.connection := by
  cases operation with
  | clear => exact absurd rfl hclear
  | select connection => exact absurd rfl (hselect connection)
  | _ => rfl

/-- What called before the dashboard was cleared does not count any more. -/
theorem calls_clear (d : Dashboard) (before after : List Operation) :
    d.calls (before ++ .clear :: after) = (d.run (before ++ [.clear])).calls after := by
  have hsplit : ∀ (d : Dashboard) (earlier : List Call),
      d.callsOnto earlier (before ++ .clear :: after) =
        (d.run (before ++ [.clear])).callsOnto [] after := by
    induction before with
    | nil => exact fun _ _ ↦ rfl
    | cons operation before ih => exact fun d earlier ↦ ih (d.perform operation) _
  exact hsplit d []

/-! ### One operation -/

theorem openedBy_eq_nil {operation : Operation}
    (hids : (d.perform operation).store.ids = d.store.ids) : d.openedBy operation = [] := by
  rw [openedBy, hids, List.drop_length]

/-- What is no message, no choice and not the clearing of the dashboard leaves the focus where it
is. -/
theorem focus_perform_of_no_message {operation : Operation} (hmessage : operation.message? = none)
    (hclear : operation ≠ .clear) (hselect : ∀ connection, operation ≠ .select connection) :
    (d.perform operation).focus = d.focus := by
  cases operation with
  | event e => cases hmessage
  | text raw => cases hmessage
  | value j => cases hmessage
  | clear => exact absurd rfl hclear
  | select connection => exact absurd rfl (hselect connection)
  | executeRecorded connection command now =>
    obtain ⟨lastExecution, heq⟩ := d.exists_perform_executeRecorded connection command now
    rw [heq]
  | toggle connection command =>
    unfold perform toggle
    dsimp only
    split <;> rfl
  | _ => rfl

theorem ids_perform_of_no_message {operation : Operation} (hmessage : operation.message? = none)
    (hclear : operation ≠ .clear) : (d.perform operation).store.ids = d.store.ids := by
  have hother : operation.concernsHistory = false := by
    cases operation <;> first | rfl | exact absurd rfl hclear | cases hmessage
  exact Store.ids_congr (by rw [(alike_perform hother).rest])

/-- What neither clears the dashboard nor chooses a connection opens at most one session, and leaves
the focus where that one leads it. -/
theorem exists_opened (hs : d.store.Coherent) {operation : Operation} (hclear : operation ≠ .clear)
    (hselect : ∀ connection, operation ≠ .select connection) :
    ∃ opened : Option SessionId, d.openedBy operation = opened.toList ∧
      (d.perform operation).store.ids = d.store.ids ++ opened.toList ∧
      (d.perform operation).focus =
        opened.elim d.focus fun id ↦ d.focus.opened id.connection := by
  cases hmessage : operation.message? with
  | none =>
    have hids := ids_perform_of_no_message (d := d) hmessage hclear
    refine ⟨none, openedBy_eq_nil hids, ?_, focus_perform_of_no_message hmessage hclear hselect⟩
    rw [hids, Option.toList_none, List.append_nil]
  | some decoded =>
    rw [openedBy, perform_of_message? hmessage]
    cases decoded with
    | error refusal => exact ⟨none, List.drop_length, (List.append_nil _).symm, rfl⟩
    | ok e =>
      obtain ⟨effect, hok, hreceive⟩ := exists_receive_ok hs e
      have hids := hs.ids_receive hok
      rw [hreceive]
      refine ⟨effect.opened, ?_, hids, ?_⟩
      · rw [hids, List.drop_left]
      · unfold focusAfter
        cases effect.opened <;> rfl

theorem focus_perform_of_openedBy_eq_nil (hs : d.store.Coherent) {operation : Operation}
    (hclear : operation ≠ .clear) (hselect : ∀ connection, operation ≠ .select connection)
    (hnone : d.openedBy operation = []) : (d.perform operation).focus = d.focus := by
  obtain ⟨opened, hopened, -, hfocus⟩ := exists_opened hs hclear hselect
  rw [hnone, eq_comm, Option.toList_eq_nil_iff] at hopened
  rw [hfocus, hopened]
  rfl

/-- What does not call: a message that is refused, that issues a query again, that brings a result
or that finishes a connection that has a session, and whatever is no message, no choice and not the
clearing of the dashboard, such as what is done to the filter, to how queries are shown and to
whether the feed is connected. -/
inductive Quiet (d : Dashboard) : Operation → Prop
  | refused {operation : Operation} {refusal : Refusal}
      (hmessage : operation.message? = some (.error refusal)) : Quiet d operation
  | duplicate {operation : Operation} {query : Query}
      (hmessage : operation.message? = some (.ok (.issued query)))
      (hduplicate : d.store.isDuplicate query = true) : Quiet d operation
  | result {operation : Operation} {result : QueryResult}
      (hmessage : operation.message? = some (.ok (.result result))) : Quiet d operation
  | finished {operation : Operation} {connection : ConnectionId}
      (hmessage : operation.message? = some (.ok (.session connection .finished)))
      (hknown : d.store.sessionsOf connection ≠ []) : Quiet d operation
  | other {operation : Operation} (hmessage : operation.message? = none)
      (hclear : operation ≠ .clear) (hselect : ∀ connection, operation ≠ .select connection) :
      Quiet d operation

theorem Quiet.ids_perform (hs : d.store.Coherent) {operation : Operation}
    (h : d.Quiet operation) : (d.perform operation).store.ids = d.store.ids := by
  cases h with
  | refused hmessage => rw [perform_of_message? hmessage, store_receive]
  | duplicate hmessage hduplicate =>
    rw [perform_of_message? hmessage, store_receive]
    exact Store.ids_receive_of_isDuplicate hduplicate
  | result hmessage =>
    rw [perform_of_message? hmessage, store_receive]
    exact d.store.ids_receive_result _
  | finished hmessage hknown =>
    rw [perform_of_message? hmessage, store_receive]
    exact hs.ids_receive_finished hknown
  | other hmessage hclear hselect => exact ids_perform_of_no_message hmessage hclear

theorem Quiet.focus_perform (hs : d.store.Coherent) {operation : Operation}
    (h : d.Quiet operation) : (d.perform operation).focus = d.focus := by
  have hids := h.ids_perform hs
  apply focus_perform_of_openedBy_eq_nil hs ?_ ?_ (openedBy_eq_nil hids)
  · rintro rfl
    cases h with
    | other hmessage hclear hselect => exact hclear rfl
    | _ hmessage => cases hmessage
  · rintro connection rfl
    cases h with
    | other hmessage hclear hselect => exact hselect connection rfl
    | _ hmessage => cases hmessage

/-! ### Runs -/

/-- What is said of a dashboard that has paid attention to some calls under a policy. -/
structure Attentive (policy : FocusPolicy) (d : Dashboard) (asked : List Call) : Prop where
  coherent : d.store.Coherent
  policy_eq : d.focus.policy = policy
  opened : asked.filterMap (·.opened?) = d.store.ids.map (·.connection)
  active : d.focus.active = policy.due d.store.ids asked

namespace Attentive

variable {policy : FocusPolicy} {asked : List Call}

theorem start (settings : DashboardSettings) :
    Attentive settings.focusPolicy (ofSettings settings) [] := by
  refine ⟨Store.coherent_empty _, rfl, rfl, ?_⟩
  cases settings.focusPolicy <;> rfl

/-- A session that opens is one more call, and one more session. -/
theorem concat {t : Dashboard} (h : Attentive policy d asked) (ht : t.store.Coherent)
    {opened : Option SessionId} (hids : t.store.ids = d.store.ids ++ opened.toList)
    (hfocus : t.focus = opened.elim d.focus fun id ↦ d.focus.opened id.connection) :
    Attentive policy t (asked ++ opened.toList.map fun id ↦ .opened id.connection) := by
  cases opened with
  | none =>
    simp only [Option.toList_none, List.map_nil, List.append_nil] at hids ⊢
    exact ⟨ht, hfocus ▸ h.policy_eq, hids ▸ h.opened, hids ▸ hfocus ▸ h.active⟩
  | some id =>
    simp only [Option.toList_some, List.map_singleton, Option.elim_some] at hids hfocus ⊢
    refine ⟨ht, ?_, ?_, ?_⟩
    · rw [hfocus, Focus.policy_opened, h.policy_eq]
    · rw [List.filterMap_append, h.opened, hids, List.map_append]
      rfl
    · rw [hfocus, Focus.active_opened, h.policy_eq, h.active]
      cases policy with
      | firstSessionWins =>
        simp only [FocusPolicy.due, hids, List.filterMap_append, List.head?_append,
          Option.map_or]
        rw [Option.or_assoc]
        simp [Call.chosen?]
      | followNewest => simp [FocusPolicy.due, Call.connection]

theorem perform (h : Attentive policy d asked) (operation : Operation) :
    Attentive policy (d.perform operation) (operation.noted d asked) := by
  have hcoherent := coherent_perform h.coherent operation
  by_cases hclear : operation = .clear
  · subst hclear
    refine ⟨hcoherent, h.policy_eq, rfl, ?_⟩
    cases policy <;> rfl
  by_cases hselect : ∃ connection, operation = .select connection
  · obtain ⟨connection, rfl⟩ := hselect
    refine ⟨hcoherent, h.policy_eq, ?_, ?_⟩
    · rw [Operation.noted, List.filterMap_append, h.opened]
      exact List.append_nil _
    · cases policy with
      | firstSessionWins =>
        simp only [FocusPolicy.due, Operation.noted, List.filterMap_append]
        simp [Call.chosen?, perform, select, Focus.choose]
      | followNewest =>
        simp [FocusPolicy.due, Operation.noted, Call.connection, perform, select, Focus.choose]
  · have hselect' : ∀ connection, operation ≠ .select connection := not_exists.mp hselect
    obtain ⟨opened, hopened, hids, hfocus⟩ := exists_opened h.coherent hclear hselect'
    rw [Operation.noted_eq hclear hselect', hopened]
    exact h.concat hcoherent hids hfocus

theorem run (h : Attentive policy d asked) (operations : List Operation) :
    Attentive policy (d.run operations) (d.callsOnto asked operations) := by
  induction operations generalizing d asked with
  | nil => exact h
  | cons operation operations ih => exact ih (h.perform operation)

/-- Where there is a session, the focus is on a connection. -/
theorem exists_active (h : Attentive policy d asked) (hsome : d.store.ids ≠ []) :
    ∃ connection, d.focus.active = some connection := by
  rw [← Option.isSome_iff_exists, h.active]
  cases policy with
  | firstSessionWins =>
    obtain ⟨first, rest, hids⟩ := List.exists_cons_of_ne_nil hsome
    rw [FocusPolicy.due, hids, List.head?_cons, Option.map_some, Option.isSome_or,
      Option.isSome_some, Bool.or_true]
  | followNewest =>
    rw [FocusPolicy.due, Option.isSome_map, List.getLast?_isSome]
    rintro rfl
    exact hsome (List.map_eq_nil_iff.mp h.opened.symm)

end Attentive

/-- After every run of a dashboard the focus is where its policy has it after the calls since the
dashboard was last cleared: on the connection that was chosen last, or else on that of the first
session; or, if the newest is followed, on that of the last call. The calls that are no choices are
the sessions there are, in order. Where there is a session the focus is on a connection; an
operation that opens no session, makes no choice and does not clear the dashboard leaves it where it
is, and so does everything that does not call. -/
theorem due_run (settings : DashboardSettings) (operations : List Operation) :
    let start := ofSettings settings
    let d := start.run operations
    let asked := start.calls operations
    d.focus.active = settings.focusPolicy.due d.store.ids asked ∧
      asked.filterMap (·.opened?) = d.store.ids.map (·.connection) ∧
      (∀ before after, operations = before ++ .clear :: after →
        asked = (start.run (before ++ [.clear])).calls after) ∧
      (d.store.isEmpty = false → ∃ connection, d.focus.active = some connection) ∧
      (∀ operation, operation ≠ .clear → (∀ connection, operation ≠ .select connection) →
        d.openedBy operation = [] → (d.perform operation).focus = d.focus) ∧
      ∀ operation, d.Quiet operation → (d.perform operation).focus = d.focus := by
  intro start d asked
  have h : Attentive settings.focusPolicy d asked := (Attentive.start settings).run operations
  refine ⟨h.active, h.opened, ?_, fun hsome ↦ h.exists_active ?_, ?_, ?_⟩
  · rintro before after rfl
    exact start.calls_clear before after
  · intro hnone
    rw [h.coherent.isEmpty_of_ids hnone] at hsome
    cases hsome
  · exact fun operation hclear hselect hnone ↦
      focus_perform_of_openedBy_eq_nil h.coherent hclear hselect hnone
  · exact fun operation hquiet ↦ hquiet.focus_perform h.coherent

/-- The newest session is followed: after the dashboard was cleared, a session opens, a connection
without a session is chosen, and the first connection is used again. Then its query is issued a
second time, which moves nothing. -/
theorem due_run_reused :
    let operations : List Operation := [.event (.session "0" .started), .clear,
      .event (.session "1" .finished), .select "9",
      .event (.issued ⟨"1", 1, none, "SELECT 1", [], true⟩)]
    let start := ofSettings { focusPolicy := .followNewest }
    let d := start.run operations
    let again : Operation := .event (.issued ⟨"1", 1, none, "SELECT 1", [], true⟩)
    start.calls operations = [.opened "1", .chosen "9", .opened "1"] ∧
      d.focus.active = some "1" ∧ d.store.ids = [⟨"1", 0⟩, ⟨"1", 1⟩] ∧
      (d.store.isEmpty = false ∧ ∃ connection, d.focus.active = some connection) ∧
      d.Quiet again ∧ (d.perform again).focus = d.focus := by
  intro operations start d again
  obtain ⟨hactive, -, hcleared, hsome, -, hquiet⟩ :=
    due_run { focusPolicy := .followNewest } operations
  have hcalls : start.calls operations = [.opened "1", .chosen "9", .opened "1"] := by
    rw [hcleared [.event (.session "0" .started)] _ rfl]
    decide
  have hfull : d.store.isEmpty = false := by decide
  have hagain : d.Quiet again := .duplicate rfl (by decide)
  rw [hcalls] at hactive
  exact ⟨hcalls, hactive, by decide, ⟨hfull, hsome hfull⟩, hagain, hquiet again hagain⟩

end Dashboard
end QueryWatch

import QueryWatch.Operator.Sending
import QueryWatch.Proofs.Text.Blank

/-!
What becomes of every line that is sent. Sending does not look at what an answer changes, so that a
record of the calls can be kept with it (`recorded`) and nothing else comes of it
(`sendFrom_mapState`). A line without an event is passed over, and counted if it says something
(`Accounts.of_event?_eq_none`); an event is counted as taken or refused (`Accounts.of_event?`), or
it is the last one, if its call failed otherwise (`accounts_of_loss?`). There is nothing else that a
line can lead to (`line_cases`), so that the calls made and the tally account for any lines, whatever
stands before them (`accounts_sendFrom`), and so for all that is sent (`accounts_run`).
-/

set_option autoImplicit false

namespace QueryWatch.Sending

open Text

/-! ### Lines -/

/-- The lines in front of the first one that cannot be read. -/
def readable : List (Except String String) → List String
  | .ok line :: rest => line :: readable rest
  | _ => []

/-- Why the first line that cannot be read cannot be. -/
def unreadable? (lines : List (Except String String)) : Option String :=
  lines.findSome? fun
    | .error cause => some cause
    | .ok _ => none

def speaks (line : String) : Bool := !isBlankText line

/-- The event of a line that says something. -/
def event? (line : String) : Option Json :=
  if speaks line then (Json.ofText (trim line)).toOption else none

/-- Whether a line says something that is no JSON. -/
def isGarbled (line : String) : Bool := speaks line && (event? line).isNone

/-- The events that there are to send. -/
def events (lines : List (Except String String)) : List Json := (readable lines).filterMap event?

theorem trim_eq_empty_iff_not_speaks {line : String} : trim line = "" ↔ ¬speaks line = true := by
  rw [trim_eq_empty_iff, speaks, Bool.not_eq_true', Bool.not_eq_false]

theorem event?_eq_some_iff {line : String} {event : Json} :
    event? line = some event ↔ speaks line = true ∧ Json.ofText (trim line) = .ok event := by
  rw [event?]
  by_cases hspeaks : speaks line = true
  · rw [if_pos hspeaks, and_iff_right hspeaks]
    cases Json.ofText (trim line) <;> simp [Except.toOption]
  · simp [hspeaks]

theorem exists_error_of_event?_eq_none {line : String} (hspeaks : speaks line = true)
    (hevent : event? line = none) : ∃ e, Json.ofText (trim line) = .error e := by
  cases hjson : Json.ofText (trim line) with
  | error e => exact ⟨e, rfl⟩
  | ok event =>
    rw [event?_eq_some_iff.mpr ⟨hspeaks, hjson⟩] at hevent
    cases hevent

/-- A line that says something is an event, or it is garbled. -/
theorem countP_speaks (lines : List String) :
    lines.countP speaks = (lines.filterMap event?).length + lines.countP isGarbled := by
  induction lines with
  | nil => rfl
  | cons line lines ih =>
    rw [List.countP_cons, List.countP_cons, List.filterMap_cons, ih, isGarbled]
    cases hevent : event? line with
    | none =>
      rw [Option.isNone_none, Bool.and_true]
      exact Nat.add_assoc ..
    | some event =>
      rw [(event?_eq_some_iff.mp hevent).1, Option.isNone_some, Bool.and_false]
      exact Nat.add_right_comm ..

/-! ### Calls -/

/-- An event that was sent, and what came of it. -/
structure Call where
  event : Json
  answer : Except CallError Json

namespace Call

def isTaken (c : Call) : Bool := c.answer.isOk

/-- Whether the daemon has answered that it does not take the event. -/
def isRefused (c : Call) : Bool :=
  match c.answer with
  | .error (.daemon _) => true
  | _ => false

/-- The error of a call that failed otherwise than by a refusal. -/
def loss? (c : Call) : Option CallError :=
  match c.answer with
  | .ok _ | .error (.daemon _) => none
  | .error e => some e

theorem isRefused_eq_of_loss?_eq_none {c : Call} (h : c.loss? = none) :
    c.isRefused = !c.isTaken := by
  obtain ⟨event, answer⟩ := c
  cases answer with
  | ok data => rfl
  | error e =>
    cases e with
    | daemon error => rfl
    | _ => cases h

/-- A call that did not fail otherwise was taken or refused. -/
theorem length_eq_of_loss?_eq_none {calls : List Call} (h : ∀ c ∈ calls, c.loss? = none) :
    calls.length = calls.countP isTaken + calls.countP isRefused := by
  rw [List.length_eq_countP_add_countP isTaken]
  congr 1
  refine List.countP_congr fun c hc ↦ ?_
  simp [isRefused_eq_of_loss?_eq_none (h c hc)]

end Call

section Runs

variable {σ τ : Type} {send : σ → Json → Except CallError Json × σ} {number : Nat}
  {sum before after : SendTally} {s : σ} {line : String} {event : Json}
  {rest : List (Except String String)} {call : Call} {calls : List Call}
  {summary : Except CallError SendTally}

/-- `send` with a record of its calls beside what else it changes. -/
def recorded (send : σ → Json → Except CallError Json × σ) :
    σ × List Call → Json → Except CallError Json × (σ × List Call) :=
  fun (s, calls) event ↦
    let (answer, s) := send s event
    (answer, (s, calls ++ [⟨event, answer⟩]))

/-! ### One line -/

theorem sendFrom_of_not_speaks (h : ¬speaks line = true) :
    sendFrom send number sum s (.ok line :: rest) = sendFrom send (number + 1) sum s rest := by
  rw [sendFrom]
  exact if_pos (trim_eq_empty_iff_not_speaks.mpr h)

theorem sendFrom_of_error {e : Json.ReadError} (hspeaks : speaks line = true)
    (hjson : Json.ofText (trim line) = .error e) :
    sendFrom send number sum s (.ok line :: rest) =
      (sendFrom send (number + 1) sum.reject s rest).complain number (.notJson e) := by
  have hne : trim line ≠ "" := fun heq ↦ trim_eq_empty_iff_not_speaks.mp heq hspeaks
  rw [sendFrom]
  simp only [if_neg hne, hjson]

theorem sendFrom_of_event? (h : event? line = some event) :
    sendFrom send number sum s (.ok line :: rest) =
      match send s event with
      | (.ok _, s) => sendFrom send (number + 1) sum.accept s rest
      | (.error (.daemon error), s) =>
        (sendFrom send (number + 1) sum.reject s rest).complain number (.refused error)
      | (.error e, s) => ⟨.error e, [], s⟩ := by
  obtain ⟨hspeaks, hjson⟩ := event?_eq_some_iff.mp h
  have hne : trim line ≠ "" := fun heq ↦ trim_eq_empty_iff_not_speaks.mp heq hspeaks
  rw [sendFrom]
  refine (if_neg hne).trans ?_
  generalize Json.ofText (trim line) = read at hjson ⊢
  subst hjson
  rfl

/-! ### From line to line -/

theorem events_cons_of_none (h : event? line = none) : events (.ok line :: rest) = events rest :=
  List.filterMap_cons_none h

theorem events_cons_of_some (h : event? line = some event) (rest : List (Except String String)) :
    events (.ok line :: rest) = event :: events rest :=
  List.filterMap_cons_some h

/-- What sending lines comes to, when `before` counts the lines before them. -/
structure Accounts (before : SendTally) (lines : List (Except String String)) (calls : List Call)
    (summary : Except CallError SendTally) : Prop where
  inOrder : calls.map Call.event <+: events lines
  answered : ∀ call ∈ calls.dropLast, call.loss? = none
  lost : ∀ e, calls.findSome? Call.loss? = some e → summary = .error e
  complete : calls.findSome? Call.loss? = none → calls.map Call.event = events lines
  unread : calls.findSome? Call.loss? = none →
    ∀ cause, unreadable? lines = some cause → summary = .error (.read cause)
  counted : calls.findSome? Call.loss? = none → unreadable? lines = none →
    summary = .ok ⟨before.accepted + calls.countP Call.isTaken,
      before.rejected + (readable lines).countP isGarbled + calls.countP Call.isRefused⟩

theorem accounts_nil (before : SendTally) : Accounts before [] [] (.ok before) where
  inOrder := List.nil_prefix
  answered _ h := nomatch h
  lost _ h := nomatch h
  complete _ := rfl
  unread _ _ h := nomatch h
  counted _ _ := rfl

/-- A line that cannot be read is the last one that is looked at. -/
theorem accounts_unreadable (before : SendTally) (cause : String)
    (rest : List (Except String String)) :
    Accounts before (.error cause :: rest) [] (.error (.read cause)) where
  inOrder := List.nil_prefix
  answered _ h := nomatch h
  lost _ h := nomatch h
  complete _ := rfl
  unread _ _ h := by
    cases h
    rfl
  counted _ h := nomatch h

/-- A line without an event is passed over, and counted if it is garbled. -/
theorem Accounts.of_event?_eq_none (h : Accounts after rest calls summary)
    (hevent : event? line = none) (haccepted : after.accepted = before.accepted)
    (hrejected : after.rejected = before.rejected + if isGarbled line then 1 else 0) :
    Accounts before (.ok line :: rest) calls summary where
  inOrder := (events_cons_of_none hevent).symm ▸ h.inOrder
  answered := h.answered
  lost := h.lost
  complete hnone := (h.complete hnone).trans (events_cons_of_none hevent).symm
  unread := h.unread
  counted hnone hreadable := by
    rw [h.counted hnone hreadable, haccepted, hrejected, readable, List.countP_cons,
      Nat.add_assoc before.rejected, Nat.add_comm (List.countP ..)]

/-- An event is counted as taken or refused. -/
theorem Accounts.of_event? (h : Accounts after rest calls summary)
    (hevent : event? line = some call.event) (hanswered : call.loss? = none)
    (haccepted : after.accepted = before.accepted + if call.isTaken then 1 else 0)
    (hrejected : after.rejected = before.rejected + if call.isRefused then 1 else 0) :
    Accounts before (.ok line :: rest) (call :: calls) summary := by
  have hevents := events_cons_of_some hevent rest
  have hfirst : (call :: calls).findSome? Call.loss? = calls.findSome? Call.loss? :=
    List.findSome?_cons_of_isNone (by rw [hanswered]; rfl)
  have hgarbled : isGarbled line = false := by
    rw [isGarbled, hevent, Option.isNone_some, Bool.and_false]
  constructor
  · rw [hevents, List.map_cons]
    exact (List.prefix_cons_inj call.event).mpr h.inOrder
  · cases calls with
    | nil => exact fun _ hc ↦ nomatch hc
    | cons second calls =>
      rw [List.dropLast_cons_cons, List.forall_mem_cons]
      exact ⟨hanswered, h.answered⟩
  · exact hfirst ▸ h.lost
  · rw [hfirst, hevents, List.map_cons]
    exact fun hnone ↦ congrArg (call.event :: ·) (h.complete hnone)
  · exact hfirst ▸ h.unread
  · rw [hfirst]
    intro hnone hreadable
    rw [h.counted hnone hreadable, haccepted, hrejected, readable, List.countP_cons,
      List.countP_cons, List.countP_cons, hgarbled, if_neg Bool.false_ne_true]
    congr 2
    · omega
    · omega

/-- An event whose call failed otherwise is the last one that is sent. -/
theorem accounts_of_loss? {e : CallError} (before : SendTally)
    (rest : List (Except String String)) (hevent : event? line = some call.event)
    (hlost : call.loss? = some e) : Accounts before (.ok line :: rest) [call] (.error e) := by
  have hevents := events_cons_of_some hevent rest
  have hfirst : [call].findSome? Call.loss? = some e := by
    rw [List.findSome?_cons, hlost]
  constructor
  · rw [hevents]
    exact (List.prefix_cons_inj call.event).mpr List.nil_prefix
  · exact fun _ hc ↦ nomatch hc
  · intro e' he'
    rw [hfirst] at he'
    cases he'
    rfl
  all_goals
    rw [hfirst]
    exact nofun

/-- A line that can be read leads to the lines behind it, maybe with a call made before them, or it
is the last one that is looked at. -/
theorem line_cases (send : σ → Json → Except CallError Json × σ) (number : Nat) (sum : SendTally)
    (s : σ) (made : List Call) (line : String) (rest : List (Except String String)) :
    let r := sendFrom (recorded send) number sum (s, made) (.ok line :: rest)
    (∃ sum' s' sent,
      let r' := sendFrom (recorded send) (number + 1) sum' (s', made ++ sent) rest
      r.state = r'.state ∧ r.summary = r'.summary ∧
        ∀ calls summary, Accounts sum' rest calls summary →
          Accounts sum (.ok line :: rest) (sent ++ calls) summary) ∨
    ∃ call, r.state.2 = made ++ [call] ∧ Accounts sum (.ok line :: rest) [call] r.summary := by
  cases hevent : event? line with
  | none =>
    by_cases hspeaks : speaks line = true
    · have hgarbled : isGarbled line = true := by
        rw [isGarbled, hspeaks, hevent]
        rfl
      obtain ⟨e, hjson⟩ := exists_error_of_event?_eq_none hspeaks hevent
      rw [sendFrom_of_error hspeaks hjson]
      refine Or.inl ⟨sum.reject, s, [], ?_, ?_, fun calls summary h ↦ ?_⟩
      · rw [List.append_nil]
        rfl
      · rw [List.append_nil]
        rfl
      · exact h.of_event?_eq_none hevent rfl (by rw [hgarbled]; rfl)
    · have hgarbled : isGarbled line = false := by
        rw [isGarbled, (Bool.not_eq_true _).mp hspeaks, Bool.false_and]
      rw [sendFrom_of_not_speaks hspeaks]
      refine Or.inl ⟨sum, s, [], ?_, ?_, fun calls summary h ↦ ?_⟩
      · rw [List.append_nil]
      · rw [List.append_nil]
      · exact h.of_event?_eq_none hevent rfl (by rw [hgarbled]; rfl)
  | some event =>
    rcases hsend : send s event with ⟨answer, s'⟩
    have hrecorded : recorded send (s, made) event =
        (answer, (s', made ++ [⟨event, answer⟩])) := by
      rw [recorded, hsend]
    rw [sendFrom_of_event? hevent, hrecorded]
    cases answer with
    | ok data =>
      exact Or.inl ⟨sum.accept, s', [⟨event, .ok data⟩], rfl, rfl,
        fun calls summary h ↦ h.of_event? hevent rfl rfl rfl⟩
    | error e =>
      cases e with
      | daemon error =>
        exact Or.inl ⟨sum.reject, s', [⟨event, .error (.daemon error)⟩], rfl, rfl,
          fun calls summary h ↦ h.of_event? hevent rfl rfl rfl⟩
      | _ => exact Or.inr ⟨_, rfl, accounts_of_loss? sum rest hevent rfl⟩

/-- The calls that are made, and what comes of them, account for the lines. -/
theorem accounts_sendFrom (send : σ → Json → Except CallError Json × σ) (number : Nat)
    (sum : SendTally) (s : σ) (made : List Call) (lines : List (Except String String)) :
    let r := sendFrom (recorded send) number sum (s, made) lines
    ∃ calls, r.state.2 = made ++ calls ∧ Accounts sum lines calls r.summary := by
  induction lines generalizing number sum s made with
  | nil => exact ⟨[], (List.append_nil made).symm, accounts_nil sum⟩
  | cons first rest ih =>
    cases first with
    | error cause => exact ⟨[], (List.append_nil made).symm, accounts_unreadable sum cause rest⟩
    | ok line =>
      rcases line_cases send number sum s made line rest with
        ⟨sum', s', sent, hstate, hsummary, haccounts⟩ | ⟨call, hstate, haccounts⟩
      · obtain ⟨calls, hcalls, hrest⟩ := ih (number + 1) sum' s' (made ++ sent)
        refine ⟨sent ++ calls, ?_, hsummary ▸ haccounts calls _ hrest⟩
        rw [hstate, hcalls, List.append_assoc]
      · exact ⟨[call], hstate, haccounts⟩

/-! ### Records of calls -/

/-- An outcome with another view of the state. -/
def Outcome.mapState (f : τ → σ) (r : Outcome τ) : Outcome σ :=
  ⟨r.summary, r.complaints, f r.state⟩

/-- What is sent and what comes of it does not depend on what is kept beside the state. -/
theorem sendFrom_mapState {send' : τ → Json → Except CallError Json × τ} (f : τ → σ)
    (hsend : ∀ t event, send (f t) event = ((send' t event).1, f (send' t event).2)) (number : Nat)
    (sum : SendTally) (t : τ) (lines : List (Except String String)) :
    sendFrom send number sum (f t) lines = (sendFrom send' number sum t lines).mapState f := by
  induction lines generalizing number sum t with
  | nil => rfl
  | cons first rest ih =>
    cases first with
    | error cause => rfl
    | ok line =>
      cases hevent : event? line with
      | none =>
        by_cases hspeaks : speaks line = true
        · obtain ⟨e, hjson⟩ := exists_error_of_event?_eq_none hspeaks hevent
          rw [sendFrom_of_error hspeaks hjson, sendFrom_of_error hspeaks hjson, ih]
          rfl
        · rw [sendFrom_of_not_speaks hspeaks, sendFrom_of_not_speaks hspeaks, ih]
      | some event =>
        rw [sendFrom_of_event? hevent, sendFrom_of_event? hevent, hsend]
        rcases send' t event with ⟨answer, t'⟩
        cases answer with
        | ok data => exact ih (number + 1) sum.accept t'
        | error e =>
          cases e with
          | daemon error =>
            exact congrArg (Outcome.complain · number (.refused error))
              (ih (number + 1) sum.reject t')
          | _ => rfl

/-- Whatever the lines are and whatever comes of each event: the lines that say something and are
JSON are sent, each with one call and in their order, up to the first call that fails otherwise than
by a refusal, or up to the first line that cannot be read. If there is such a call, no other one is
made behind it, and its error is what comes of sending. If there is none and all lines can be read,
then the tally has every line that says something: as accepted those whose call succeeded, as
rejected those that are no JSON and those that were refused. Without the record of the calls the
same comes of it. -/
theorem accounts_run (send : σ → Json → Except CallError Json × σ) (s : σ)
    (lines : List (Except String String)) :
    let r := sendAll (recorded send) (s, []) lines
    let calls := r.state.2
    sendAll send s lines = ⟨r.summary, r.complaints, r.state.1⟩ ∧
      calls.map Call.event <+: events lines ∧
      (∀ call ∈ calls.dropLast, call.loss? = none) ∧
      (∀ e, calls.findSome? Call.loss? = some e → r.summary = .error e) ∧
      (calls.findSome? Call.loss? = none →
        calls.map Call.event = events lines ∧
        (∀ cause, unreadable? lines = some cause → r.summary = .error (.read cause)) ∧
        (unreadable? lines = none → ∃ tally,
          r.summary = .ok tally ∧
          tally.accepted = calls.countP Call.isTaken ∧
          tally.rejected = (readable lines).countP isGarbled + calls.countP Call.isRefused ∧
          tally.accepted + tally.rejected = (readable lines).countP speaks)) := by
  intro r calls
  have hsame : sendAll send s lines = r.mapState Prod.fst :=
    sendFrom_mapState Prod.fst (fun _ _ ↦ rfl) 1 {} (s, []) lines
  obtain ⟨calls', hcalls, h⟩ := accounts_sendFrom send 1 {} s [] lines
  have hmade : calls = calls' := hcalls
  rw [← hmade] at h
  refine ⟨hsame, h.inOrder, h.answered, h.lost, fun hnone ↦
    ⟨h.complete hnone, h.unread hnone, fun hreadable ↦ ⟨_, h.counted hnone hreadable, ?_, ?_, ?_⟩⟩⟩
  · exact Nat.zero_add _
  · exact congrArg (· + _) (Nat.zero_add _)
  · have hlength : calls.length = (events lines).length := by
      rw [← h.complete hnone, List.length_map]
    have hanswered := Call.length_eq_of_loss?_eq_none (List.findSome?_eq_none_iff.mp hnone)
    rw [countP_speaks, ← events, ← hlength, hanswered]
    change 0 + _ + (0 + _ + _) = _
    omega

/-- The third line is garbled, and at the fourth the daemon is lost, so the fifth is not sent. -/
example :
    let send (sent : Nat) (_ : Json) : Except CallError Json × Nat :=
      (if sent = 0 then .ok .null else .error .timeout, sent + 1)
    let r := sendAll send 0 [.ok "1", .ok " ", .ok "x", .ok "2", .ok "3"]
    r.summary = .error .timeout ∧ r.complaints.map Prod.fst = [3] ∧ r.state = 2 := by
  decide

end Runs

end QueryWatch.Sending

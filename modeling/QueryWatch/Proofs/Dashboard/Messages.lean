import QueryWatch.Daemon.Basic
import QueryWatch.Proofs.Dashboard.Run

/-!
Messages that come to a dashboard. A message is taken as a whole or not at all: one that is refused
is counted and changes nothing else, and one that is decoded is applied and has an outcome
(`exists_receive_ok`), since no event fails on a coherent store. A text, the value it stands for,
and a request to the daemon with that value come to the same. `messages_run` says so of every
dashboard that a run reaches.
-/

set_option autoImplicit false

namespace QueryWatch

/-- No refusal is reported as an internal error. -/
theorem Refusal.code_report_ne (refusal : Refusal) : refusal.report.code ≠ "internal_error" := by
  have hclass : ∀ cls : RefusalClass, cls.code ≠ "internal_error" := by
    intro cls
    cases cls <;> decide
  exact hclass refusal.cls

/-- A text is decoded as the value it stands for. -/
theorem Event.decodeText_of_ofText {raw : String} {v : Json}
    (hparsed : Json.ofText (Text.trim raw) = .ok v) : Event.decodeText raw = Event.decode v := by
  rw [decodeText, hparsed]

/-- A message as it comes: a text, or a value that was read before. -/
inductive Message
  | text (raw : String)
  | value (v : Json)

/-- What a message is decoded to. -/
def Message.decoded : Message → Except Refusal Event
  | text raw => Event.decodeText raw
  | value v => Event.decode v

namespace Dashboard

variable {d : Dashboard} {e : Event}

/-- A message comes. -/
def take (d : Dashboard) : Message → Except MessageError EventEffect × Dashboard
  | .text raw => d.receiveText raw
  | .value v => d.receiveValue v

theorem take_eq_receive (d : Dashboard) (m : Message) : d.take m = d.receive m.decoded := by
  cases m <;> rfl

/-! ### Refused or applied -/

/-- A message that is refused is counted. -/
theorem receive_refused (d : Dashboard) (refusal : Refusal) : d.receive (.error refusal) =
    (.error (.refused refusal), { d with protocolErrors := d.protocolErrors + 1 }) := rfl

/-- Where the focus is after an event with an outcome. -/
def focusAfter (d : Dashboard) (outcome : EventEffect) : Focus :=
  match outcome.opened with
  | none => d.focus
  | some id => d.focus.opened id.connection

/-- An event that the store can take changes the store, and the focus if it opened a session. -/
theorem apply_of_ok {outcome : EventEffect} (hok : (d.store.apply e).1 = .ok outcome) :
    d.apply e =
      (.ok outcome, { d with store := d.store.receive e, focus := d.focusAfter outcome }) := by
  unfold apply focusAfter Store.receive
  simp only [hok]
  cases outcome.opened <;> rfl

/-- A message that is decoded has an outcome. -/
theorem exists_receive_ok (hs : d.store.Coherent) (e : Event) :
    ∃ outcome, (d.store.apply e).1 = .ok outcome ∧ d.receive (.ok e) =
      (.ok outcome, { d with store := d.store.receive e, focus := d.focusAfter outcome }) := by
  obtain ⟨outcome, hok⟩ := hs.exists_apply_eq_ok e
  refine ⟨outcome, hok, ?_⟩
  simp only [receive, apply_of_ok hok]
  rfl

/-- What a coherent dashboard answers with an error, it has refused. -/
theorem exists_refusal_of_error (hs : d.store.Coherent) {decoded : Except Refusal Event}
    {error : MessageError} (herror : (d.receive decoded).1 = .error error) :
    ∃ refusal, decoded = .error refusal ∧ error = .refused refusal := by
  cases decoded with
  | error refusal =>
    rw [receive_refused] at herror
    cases herror
    exact ⟨refusal, rfl, rfl⟩
  | ok e =>
    obtain ⟨outcome, -, hreceive⟩ := exists_receive_ok hs e
    rw [hreceive] at herror
    cases herror

/-- A text and the value it stands for come to the same. -/
theorem receiveText_eq_receiveValue {raw : String} {v : Json}
    (hparsed : Json.ofText (Text.trim raw) = .ok v) : d.receiveText raw = d.receiveValue v := by
  rw [receiveText, Event.decodeText_of_ofText hparsed, receiveValue]

end Dashboard

/-! ### Messages in requests -/

/-- What the daemon answers to a message, and the daemon with the dashboard after it. -/
def Daemon.told (daemon : Daemon) (id : Option String)
    (taken : Except MessageError EventEffect × Dashboard) : Reply where
  response := match taken.1 with
    | .ok outcome =>
      .success id (.object [("accepted", .bool true), ("outcome", .string outcome.name)])
    | .error e => .failure id e.report
  daemon := daemon.setDashboard taken.2

/-- A request with a message is answered with what became of the message. -/
theorem Daemon.answer_event (daemon : Daemon) (id : Option String) (v : Json) (now : Moment) :
    daemon.answer ⟨protocolVersion, .event, id, some v⟩ now =
      daemon.told id (daemon.dashboard.receiveValue v) := by
  have hanswer : daemon.answer ⟨protocolVersion, .event, id, some v⟩ now =
      daemon.answerEvent id (some v) := if_pos rfl
  rw [hanswer]
  unfold answerEvent told
  dsimp only
  rcases daemon.dashboard.receiveValue v with ⟨outcome | error, dashboard⟩ <;> rfl

namespace Dashboard

/-- In every dashboard that a run reaches, a message that is refused changes the count of refused
messages only and is answered with the refusal; one that is decoded is applied as a whole, has an
outcome, and leaves that count as it is; and no message ends with an internal error. A text that
stands for a value, that value, and a request with it to a daemon that has the dashboard come to the
same. -/
theorem messages_run (settings : DashboardSettings) (operations : List Operation) :
    let d := (ofSettings settings).run operations
    (∀ (m : Message) (refusal : Refusal), m.decoded = .error refusal →
        d.take m = (.error (.refused refusal), { d with protocolErrors := d.protocolErrors + 1 })) ∧
      (∀ (m : Message) (e : Event), m.decoded = .ok e →
        ∃ outcome, (d.store.apply e).1 = .ok outcome ∧
          d.take m =
            (.ok outcome, { d with store := d.store.receive e, focus := d.focusAfter outcome })) ∧
      (∀ (m : Message) (error : MessageError), (d.take m).1 = .error error →
        error.report.code ≠ "internal_error") ∧
      ∀ (raw : String) (v : Json), Json.ofText (Text.trim raw) = .ok v →
        d.take (.text raw) = d.take (.value v) ∧
          ∀ (startedAt : Timestamp) (processId : Nat) (id : Option String) (now : Moment),
            let daemon : Daemon := ⟨d, startedAt, processId⟩
            daemon.answer ⟨protocolVersion, .event, id, some v⟩ now =
              daemon.told id (d.take (.value v)) := by
  intro d
  have hs : d.store.Coherent := (coherent_chronological_run settings operations).1
  refine ⟨?_, ?_, ?_, ?_⟩
  · intro m refusal hrefused
    rw [take_eq_receive, hrefused, receive_refused]
  · intro m e hdecoded
    rw [take_eq_receive, hdecoded]
    exact exists_receive_ok hs e
  · intro m error herror
    rw [take_eq_receive] at herror
    obtain ⟨refusal, -, rfl⟩ := exists_refusal_of_error hs herror
    exact refusal.code_report_ne
  · intro raw v hparsed
    refine ⟨receiveText_eq_receiveValue hparsed, ?_⟩
    intro startedAt processId id now daemon
    exact daemon.answer_event id v now

/-- A message of the proxy that opens a session, and one that is no object, both as texts with
spaces around them. -/
theorem messages_run_first :
    let d := (ofSettings {}).run []
    let e : Event := .session "1" .started
    (∃ outcome, (d.store.apply e).1 = .ok outcome ∧
        d.take (.text " \x7b\"ConnId\":1,\"State\":244\x7d ") =
          (.ok outcome, { d with store := d.store.receive e, focus := d.focusAfter outcome })) ∧
      d.take (.text " [] ") = (.error (.refused .notObject), { d with protocolErrors := 1 }) ∧
      d.take (.text " [] ") = d.take (.value (.array [])) := by
  intro d e
  obtain ⟨hrefused, happlied, -, hsame⟩ := messages_run {} []
  refine ⟨?_, ?_, ?_⟩
  · exact happlied (.text " \x7b\"ConnId\":1,\"State\":244\x7d ") e (by decide +kernel)
  · exact hrefused (.text " [] ") .notObject (by decide +kernel)
  · exact (hsame " [] " (.array []) rfl).1

end Dashboard
end QueryWatch

import QueryWatch.Proofs.Json.Record

/-!
What an object is read as. A message has the shape of a kind of tagged event or of a form of the
proxy's messages. Each shape has its members, and is read if the fields given are of their types and
no member is missing; what is read is made of the members. In a result of the proxy the duration,
and in a state the byte, is looked at only after all members were read (`Wire.read_result_eq`,
`Wire.read_state_eq`).
-/

set_option autoImplicit false

namespace QueryWatch

open Json (Fields Layout Member Mismatch field_eq_ok_iff readFields_eq_ok_iff)

/-- The shapes of messages: the kinds of tagged events, and the forms of the proxy's messages. -/
inductive Shape
  | tagged (kind : EventKind)
  | wire (form : WireForm)
  deriving DecidableEq, Repr

/-- The kind of an event. -/
def Event.kind : Event → EventKind
  | session _ _ => .sessionState
  | issued _ => .queryIssued
  | result _ => .queryResult

/-- The kind of the events of a shape. -/
def Shape.kind : Shape → EventKind
  | tagged kind => kind
  | wire .query => .queryIssued
  | wire .result => .queryResult
  | wire .state => .sessionState

/-- How a shape is read. -/
def Shape.layout : Shape → Layout
  | tagged .sessionState => Tagged.sessionLayout
  | tagged .queryIssued => Tagged.issuedLayout
  | tagged .queryResult => Tagged.resultLayout
  | wire .query => Wire.queryLayout
  | wire .result => Wire.resultLayout
  | wire .state => Wire.stateLayout

/-- The members of a shape. -/
def Shape.members : Shape → List ((α : Type) × Member α)
  | tagged .sessionState => [⟨_, Tagged.connection⟩, ⟨_, Tagged.state⟩]
  | tagged .queryIssued =>
    [⟨_, Tagged.connection⟩, ⟨_, Tagged.command⟩, ⟨_, Tagged.database⟩, ⟨_, Tagged.queryText⟩,
      ⟨_, Tagged.parameters⟩, ⟨_, Tagged.executable⟩]
  | tagged .queryResult =>
    [⟨_, Tagged.connection⟩, ⟨_, Tagged.command⟩, ⟨_, Tagged.status⟩, ⟨_, Tagged.errorMessage⟩,
      ⟨_, Tagged.duration⟩]
  | wire .query =>
    [⟨_, Wire.connection⟩, ⟨_, Wire.command⟩, ⟨_, Wire.database⟩, ⟨_, Wire.query⟩,
      ⟨_, Wire.parameters⟩, ⟨_, Wire.executable⟩]
  | wire .result =>
    [⟨_, Wire.connection⟩, ⟨_, Wire.command⟩, ⟨_, Wire.result⟩, ⟨_, Wire.error⟩,
      ⟨_, Wire.duration⟩]
  | wire .state => [⟨_, Wire.connection⟩, ⟨_, Wire.state⟩]

theorem Shape.rules_layout (shape : Shape) :
    shape.layout.rules = shape.members.map (·.2.rule) := by
  rcases shape with (_ | _ | _) | (_ | _ | _) <;> rfl

theorem Shape.closed_layout (shape : Shape) : shape.layout.closed = false := by
  rcases shape with (_ | _ | _) | (_ | _ | _) <;> rfl

/-- The fields given pass the check, and no member is missing. -/
def Shape.Readable (shape : Shape) (fields : Fields) : Prop :=
  shape.layout.check fields = .ok () ∧ ∀ m ∈ shape.members, ∃ a, m.2.value? fields = some a

variable {fields : Fields} {e : Event}

/-! ### Tagged events -/

namespace Tagged

theorem read_sessionState_eq_ok_iff : read .sessionState fields = .ok e ↔
    sessionLayout.check fields = .ok () ∧ ∃ c stage, connection.value? fields = some c ∧
      state.value? fields = some stage ∧ e = .session c stage := by
  simp only [read, readFields_eq_ok_iff, bind_eq_ok_iff, field_eq_ok_iff, pure, Except.pure,
    Except.ok.injEq, exists_and_left, eq_comm (a := e)]

theorem read_queryIssued_eq_ok_iff : read .queryIssued fields = .ok e ↔
    issuedLayout.check fields = .ok () ∧ ∃ q, connection.value? fields = some q.connection ∧
      command.value? fields = some q.command ∧ database.value? fields = some q.database ∧
      queryText.value? fields = some q.text ∧ parameters.value? fields = some q.parameters ∧
      executable.value? fields = some q.executable ∧ e = .issued q := by
  simp only [read, readFields_eq_ok_iff, bind_eq_ok_iff, field_eq_ok_iff, pure, Except.pure,
    Except.ok.injEq]
  refine and_congr_right fun _ ↦ ⟨?_, ?_⟩
  · rintro ⟨c, hc, m, hm, d, hd, t, ht, ps, hps, x, hx, rfl⟩
    exact ⟨⟨c, m, d, t, ps, x⟩, hc, hm, hd, ht, hps, hx, rfl⟩
  · rintro ⟨q, hc, hm, hd, ht, hps, hx, rfl⟩
    exact ⟨_, hc, _, hm, _, hd, _, ht, _, hps, _, hx, rfl⟩

theorem read_queryResult_eq_ok_iff : read .queryResult fields = .ok e ↔
    resultLayout.check fields = .ok () ∧ ∃ r, connection.value? fields = some r.connection ∧
      command.value? fields = some r.command ∧ status.value? fields = some r.status ∧
      errorMessage.value? fields = some r.message ∧ duration.value? fields = some r.millis ∧
      e = .result r := by
  simp only [read, readFields_eq_ok_iff, bind_eq_ok_iff, field_eq_ok_iff, pure, Except.pure,
    Except.ok.injEq]
  refine and_congr_right fun _ ↦ ⟨?_, ?_⟩
  · rintro ⟨c, hc, m, hm, s, hs, t, ht, n, hn, rfl⟩
    exact ⟨⟨c, m, s, t, n⟩, hc, hm, hs, ht, hn, rfl⟩
  · rintro ⟨r, hc, hm, hs, ht, hn, rfl⟩
    exact ⟨_, hc, _, hm, _, hs, _, ht, _, hn, rfl⟩

theorem exists_read_iff (kind : EventKind) :
    (∃ e, read kind fields = .ok e) ↔ (Shape.tagged kind).Readable fields := by
  unfold Shape.Readable
  cases kind with
  | sessionState =>
    simp only [read_sessionState_eq_ok_iff, exists_and_left, Shape.members, List.forall_mem_cons,
      List.not_mem_nil, false_implies, implies_true, and_true]
    refine and_congr_right fun _ ↦ ⟨?_, ?_⟩
    · rintro ⟨_, c, hc, stage, hstage, -⟩
      exact ⟨⟨c, hc⟩, ⟨stage, hstage⟩⟩
    · rintro ⟨⟨c, hc⟩, ⟨stage, hstage⟩⟩
      exact ⟨_, c, hc, stage, hstage, rfl⟩
  | queryIssued =>
    simp only [read_queryIssued_eq_ok_iff, exists_and_left, Shape.members, List.forall_mem_cons,
      List.not_mem_nil, false_implies, implies_true, and_true]
    refine and_congr_right fun _ ↦ ⟨?_, ?_⟩
    · rintro ⟨_, q, hc, hm, hd, ht, hps, hx, -⟩
      exact ⟨⟨_, hc⟩, ⟨_, hm⟩, ⟨_, hd⟩, ⟨_, ht⟩, ⟨_, hps⟩, ⟨_, hx⟩⟩
    · rintro ⟨⟨c, hc⟩, ⟨m, hm⟩, ⟨d, hd⟩, ⟨t, ht⟩, ⟨ps, hps⟩, ⟨x, hx⟩⟩
      exact ⟨_, ⟨c, m, d, t, ps, x⟩, hc, hm, hd, ht, hps, hx, rfl⟩
  | queryResult =>
    simp only [read_queryResult_eq_ok_iff, exists_and_left, Shape.members, List.forall_mem_cons,
      List.not_mem_nil, false_implies, implies_true, and_true]
    refine and_congr_right fun _ ↦ ⟨?_, ?_⟩
    · rintro ⟨_, r, hc, hm, hs, ht, hn, -⟩
      exact ⟨⟨_, hc⟩, ⟨_, hm⟩, ⟨_, hs⟩, ⟨_, ht⟩, ⟨_, hn⟩⟩
    · rintro ⟨⟨c, hc⟩, ⟨m, hm⟩, ⟨s, hs⟩, ⟨t, ht⟩, ⟨n, hn⟩⟩
      exact ⟨_, ⟨c, m, s, t, n⟩, hc, hm, hs, ht, hn, rfl⟩

end Tagged

/-! ### Messages of the proxy -/

namespace Wire

/-- Reads the members of a query. -/
def readQuery (fields : Fields) : Except Mismatch Event :=
  readFields queryLayout fields fun g ↦ do
    let connection ← g.field queryLayout 0 connection
    let command ← g.field queryLayout 1 command
    let database ← g.field queryLayout 2 database
    let text ← g.field queryLayout 3 query
    let parameters ← g.field queryLayout 4 parameters
    let executable ← g.field queryLayout 5 executable
    return .issued
      { connection, command, database, text, parameters := parameters.getD [], executable }

/-- The members of a result: connection, command, byte, message and duration. -/
abbrev ResultMembers := ConnectionId × CommandId × UInt8 × Option String × Option Duration

/-- Reads the members of a result. -/
def readResult (fields : Fields) : Except Mismatch ResultMembers :=
  readFields resultLayout fields fun g ↦ do
    let connection ← g.field resultLayout 0 connection
    let command ← g.field resultLayout 1 command
    let byte ← g.field resultLayout 2 result
    let message ← g.field resultLayout 3 error
    let duration ← g.field resultLayout 4 duration
    return (connection, command, byte, message, duration)

/-- The milliseconds of a duration that may be absent. -/
def millis? : Option Duration → Except Refusal UInt64
  | some d => d.millis
  | none => .ok 0

/-- Reads the members of a state. -/
def readState (fields : Fields) : Except Mismatch (ConnectionId × UInt8) :=
  readFields stateLayout fields fun g ↦ do
    let connection ← g.field stateLayout 0 connection
    let byte ← g.field stateLayout 1 state
    return (connection, byte)

theorem read_query_eq (fields : Fields) :
    read .query fields = (readQuery fields).mapError (.malformedWire .query) := rfl

theorem read_result_eq (fields : Fields) :
    read .result fields = (readResult fields).mapError (.malformedWire .result) >>= fun r ↦
      (millis? r.2.2.2.2).map fun millis ↦
        .result ⟨r.1, r.2.1, status r.2.2.1, r.2.2.2.1, millis⟩ := by
  unfold read
  change (readResult fields).mapError (Refusal.malformedWire .result) >>= _ = _
  congr 1
  funext ⟨c, m, byte, message, duration⟩
  cases duration <;> rfl

theorem read_state_eq (fields : Fields) :
    read .state fields = (readState fields).mapError (.malformedWire .state) >>= fun r ↦
      (stage r.2).map (.session r.1) := rfl

theorem readQuery_eq_ok_iff : readQuery fields = .ok e ↔
    queryLayout.check fields = .ok () ∧ ∃ c m d t ps x, connection.value? fields = some c ∧
      command.value? fields = some m ∧ database.value? fields = some d ∧
      query.value? fields = some t ∧ parameters.value? fields = some ps ∧
      executable.value? fields = some x ∧ e = .issued ⟨c, m, d, t, ps.getD [], x⟩ := by
  simp only [readQuery, readFields_eq_ok_iff, bind_eq_ok_iff, field_eq_ok_iff, pure, Except.pure,
    Except.ok.injEq, exists_and_left, eq_comm (a := e)]

theorem readResult_eq_ok_iff {r : ResultMembers} : readResult fields = .ok r ↔
    resultLayout.check fields = .ok () ∧ connection.value? fields = some r.1 ∧
      command.value? fields = some r.2.1 ∧ result.value? fields = some r.2.2.1 ∧
      error.value? fields = some r.2.2.2.1 ∧ duration.value? fields = some r.2.2.2.2 := by
  obtain ⟨c, m, byte, message, d⟩ := r
  simp [readResult, readFields_eq_ok_iff, bind_eq_ok_iff, field_eq_ok_iff, pure, Except.pure]

theorem readState_eq_ok_iff {r : ConnectionId × UInt8} : readState fields = .ok r ↔
    stateLayout.check fields = .ok () ∧ connection.value? fields = some r.1 ∧
      state.value? fields = some r.2 := by
  obtain ⟨c, byte⟩ := r
  simp [readState, readFields_eq_ok_iff, bind_eq_ok_iff, field_eq_ok_iff, pure, Except.pure]

theorem exists_readQuery_iff :
    (∃ e, readQuery fields = .ok e) ↔ (Shape.wire .query).Readable fields := by
  simp only [readQuery_eq_ok_iff, exists_and_left, Shape.Readable, Shape.members,
    List.forall_mem_cons, List.not_mem_nil, false_implies, implies_true, and_true]
  refine and_congr_right fun _ ↦ ⟨?_, ?_⟩
  · rintro ⟨_, c, hc, m, hm, d, hd, t, ht, ps, hps, x, hx, -⟩
    exact ⟨⟨c, hc⟩, ⟨m, hm⟩, ⟨d, hd⟩, ⟨t, ht⟩, ⟨ps, hps⟩, ⟨x, hx⟩⟩
  · rintro ⟨⟨c, hc⟩, ⟨m, hm⟩, ⟨d, hd⟩, ⟨t, ht⟩, ⟨ps, hps⟩, ⟨x, hx⟩⟩
    exact ⟨_, c, hc, m, hm, d, hd, t, ht, ps, hps, x, hx, rfl⟩

theorem exists_readResult_iff :
    (∃ r, readResult fields = .ok r) ↔ (Shape.wire .result).Readable fields := by
  simp only [readResult_eq_ok_iff, exists_and_left, Shape.Readable, Shape.members,
    List.forall_mem_cons, List.not_mem_nil, false_implies, implies_true, and_true]
  refine and_congr_right fun _ ↦ ⟨?_, ?_⟩
  · rintro ⟨_, hc, hm, hbyte, hmessage, hd⟩
    exact ⟨⟨_, hc⟩, ⟨_, hm⟩, ⟨_, hbyte⟩, ⟨_, hmessage⟩, ⟨_, hd⟩⟩
  · rintro ⟨⟨c, hc⟩, ⟨m, hm⟩, ⟨byte, hbyte⟩, ⟨message, hmessage⟩, ⟨d, hd⟩⟩
    exact ⟨(c, m, byte, message, d), hc, hm, hbyte, hmessage, hd⟩

theorem exists_readState_iff :
    (∃ r, readState fields = .ok r) ↔ (Shape.wire .state).Readable fields := by
  simp only [readState_eq_ok_iff, exists_and_left, Shape.Readable, Shape.members,
    List.forall_mem_cons, List.not_mem_nil, false_implies, implies_true, and_true]
  refine and_congr_right fun _ ↦ ⟨?_, ?_⟩
  · rintro ⟨_, hc, hbyte⟩
    exact ⟨⟨_, hc⟩, ⟨_, hbyte⟩⟩
  · rintro ⟨⟨c, hc⟩, ⟨byte, hbyte⟩⟩
    exact ⟨(c, byte), hc, hbyte⟩

end Wire

end QueryWatch

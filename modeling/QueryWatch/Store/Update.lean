import QueryWatch.Store.Basic

/-!
How events change the history.

A query that is issued again in the newest generation of its connection is a duplicate. A result
without a query waits, as an orphan, until its query is issued; when too many wait, the one that has
waited longest is given up. The latest state of a session counts, except that a finished session
stays finished: when it starts, or a query is issued on it, the next generation of its connection
begins.
-/

set_option autoImplicit false

namespace QueryWatch

/-- What an event did to the session it concerns. -/
inductive SessionEffect
  | unchanged
  | created (id : SessionId)
  | reused (id : SessionId)
  deriving DecidableEq, Repr

/-- The session an event opened. -/
def SessionEffect.opened : SessionEffect → Option SessionId
  | unchanged => none
  | created id => some id
  | reused id => some id

/-- What became of an issued query: it was recorded, without a result or with one that had waited,
or it was recorded already. -/
inductive RecordEntry
  | inserted
  | insertedWithResult
  | duplicate
  deriving DecidableEq, Repr

/-- What an issued query did. -/
structure IssueEffect where
  entry : RecordEntry
  session : SessionEffect
  deriving DecidableEq, Repr

/-- What a result did: it resolved a record, it waits for its query, or it was lost. -/
inductive ResultEffect
  | applied
  | buffered
  | dropped
  deriving DecidableEq, Repr

/-- What an event did. -/
inductive EventEffect
  | session (change : SessionEffect)
  | issued (outcome : IssueEffect)
  | result (outcome : ResultEffect)
  deriving DecidableEq, Repr

/-- The session an event opened. -/
def EventEffect.opened : EventEffect → Option SessionId
  | session change => change.opened
  | issued outcome => outcome.session.opened
  | result _ => none

/-- A session on which one more command was issued, by the event with a number. -/
def Session.issued (x : Session) (command : CommandId) (number : Nat) : Session :=
  { x with
    commands := x.commands ++ [command]
    queryCount := x.queryCount + 1
    lastSeen := number }

namespace Store

/-! ### Parts of updates -/

/-- The store after one more event has arrived. -/
def advance (s : Store) : Store := { s with lastNumber := s.lastNumber + 1 }

/-- Changes the record with a key. -/
def updateRecord (s : Store) (key : RecordKey) (f : RecordedQuery → RecordedQuery) : Store :=
  { s with records := s.records.modify key f }

/-- Changes the session at a place. -/
def updateSession (s : Store) (place : Nat) (f : Session → Session) : Store :=
  { s with sessions := s.sessions.modify place f }

/-- Notes that the latest event concerned a session. -/
def touch (s : Store) (id : SessionId) : Store :=
  match s.placeOf[id]? with
  | none => s
  | some place => s.updateSession place fun x ↦ { x with lastSeen := s.lastNumber }

/-- Opens a session, at the latest event. It stands behind all others. -/
def openSession (s : Store) (id : SessionId) (stage : SessionStage) : Store :=
  { s with
    sessions := s.sessions ++
      [{ id, stage, commands := [], queryCount := 0
         firstSeen := s.lastNumber, lastSeen := s.lastNumber }]
    placeOf := s.placeOf.insert id s.sessions.length
    newestPlaceOf := s.newestPlaceOf.insert id.connection s.sessions.length }

/-- Opens the generation behind that of a session. -/
def reopen (s : Store) (previous : Session) : SessionId × Store :=
  let id : SessionId := ⟨previous.id.connection, previous.id.generation + 1⟩
  let s := s.openSession id .started
  (id, { s with counts.sessionReuses := s.counts.sessionReuses + 1 })

/-- The session for a new query of a connection, opened if need be, and its place. -/
def sessionForQuery (s : Store) (connection : ConnectionId) :
    Nat × SessionId × SessionEffect × Store :=
  match s.newestPlaced? connection with
  | none =>
    let id : SessionId := ⟨connection, 0⟩
    (s.sessions.length, id, .created id, s.openSession id .started)
  | some (place, newest) =>
    match newest.stage with
    | .finished =>
      let (id, t) := s.reopen newest
      (s.sessions.length, id, .reused id, t)
    | .started => (place, newest.id, .unchanged, s)

/-- Adds a record to the session at a place; there must be none of its key. -/
def insert (s : Store) (place : Nat) (record : RecordedQuery) : Except Failure Store :=
  if record.key ∈ s.records then
    .error <| .invariantViolated <|
      "query record for connection " ++ record.query.connection ++ " command " ++
        toString record.query.command.toNat ++ " generation " ++ toString record.generation ++
        " written twice"
  else
    let s := s.updateSession place (·.issued record.query.command record.received)
    .ok { s with records := s.records.insert record.key record }

/-- The orphan of a command. -/
def orphan? (s : Store) (connection : ConnectionId) (command : CommandId) : Option QueryResult :=
  s.orphans.find? (·.isOf connection command)

/-- The orphans without the one of a command. -/
def otherOrphans (s : Store) (connection : ConnectionId) (command : CommandId) :
    List QueryResult :=
  s.orphans.eraseP (·.isOf connection command)

/-- Resolves the record with a key. -/
def resolve (s : Store) (key : RecordKey) (result : QueryResult) : Store :=
  s.updateRecord key fun r ↦ { r with resolution := some result.resolution }

/-- Resolves a record that was just inserted by the result that waits for it, if there is one. -/
def reconcile (s : Store) (key : RecordKey) : RecordEntry × Store :=
  match s.orphan? key.session.connection key.command with
  | none => (.inserted, s)
  | some result =>
    let others := s.otherOrphans key.session.connection key.command
    let s := { s with orphans := others }.resolve key result
    (.insertedWithResult,
      { s with
        counts.orphansReconciled := s.counts.orphansReconciled + 1
        counts.resultsApplied := s.counts.resultsApplied + 1 })

/-- Records a query in the session at a place, with the result that waits for it if there is one. -/
def recordIn (s : Store) (place : Nat) (generation : Nat) (query : Query) :
    Except Failure (RecordEntry × Store) :=
  let record : RecordedQuery :=
    { query, generation
      resolution := none
      expanded := s.settings.expandByDefault
      received := s.lastNumber }
  (s.insert place record).map fun s ↦
    { s with counts.queriesIssued := s.counts.queriesIssued + 1 }.reconcile record.key

/-- Whether the newest generation of a query's connection has its command already. -/
def isDuplicate (s : Store) (query : Query) : Bool :=
  match s.newestSession? query.connection with
  | none => false
  | some newest => ⟨newest.id, query.command⟩ ∈ s.records

/-- Whether a key is that of a record without a result. -/
def isPending (s : Store) (key : RecordKey) : Bool := (s.record? key).any (·.isPending)

/-- The key of the record a result resolves: the newest one of its command, unless that belongs to
an earlier generation and is resolved already. -/
def target? (s : Store) (connection : ConnectionId) (command : CommandId) : Option RecordKey :=
  match s.newestKey? connection command, s.newestSession? connection with
  | some key, some newest =>
    if key.session.generation = newest.id.generation ∨ s.isPending key then some key else none
  | _, _ => none

/-- Lets a result wait for its query. -/
def buffer (s : Store) (result : QueryResult) : ResultEffect × Store :=
  let s := { s with counts.orphanResults := s.counts.orphanResults + 1 }
  if s.settings.orphanCapacity = 0 then
    (.dropped, { s with counts.orphansDropped := s.counts.orphansDropped + 1 })
  else
    let others := s.otherOrphans result.connection result.command
    let s :=
      if s.settings.orphanCapacity ≤ others.length then
        { s with
          orphans := others.tail
          counts.orphansEvicted := s.counts.orphansEvicted + 1 }
      else { s with orphans := others }
    (.buffered, { s with orphans := s.orphans ++ [result] })

/-! ### Events -/

/-- A query is issued. -/
def applyIssued (s : Store) (query : Query) : Except Failure IssueEffect × Store :=
  let s := s.advance
  if s.isDuplicate query then
    (.ok ⟨.duplicate, .unchanged⟩,
      { s with counts.duplicateIssues := s.counts.duplicateIssues + 1 })
  else
    let (place, session, change, s) := s.sessionForQuery query.connection
    match s.recordIn place session.generation query with
    | .error failure => (.error failure, s)
    | .ok (entry, s) => (.ok ⟨entry, change⟩, s)

/-- A query has a result. -/
def applyResult (s : Store) (result : QueryResult) : ResultEffect × Store :=
  let s := s.advance
  match s.target? result.connection result.command with
  | none => s.buffer result
  | some key =>
    let s := (s.resolve key result).touch key.session
    (.applied, { s with counts.resultsApplied := s.counts.resultsApplied + 1 })

/-- A session is at a stage. -/
def applyStage (s : Store) (connection : ConnectionId) (stage : SessionStage) :
    SessionEffect × Store :=
  let s := s.advance
  match s.newestPlaced? connection with
  | none =>
    let id : SessionId := ⟨connection, 0⟩
    (.created id, s.openSession id stage)
  | some (place, newest) =>
    match newest.stage, stage with
    | .finished, .started =>
      let (id, s) := s.reopen newest
      (.reused id, s)
    | _, _ =>
      (.unchanged, s.updateSession place fun x ↦ { x with stage, lastSeen := s.lastNumber })

/-- An event changes the history. -/
def apply (s : Store) : Event → Except Failure EventEffect × Store
  | .session connection stage =>
    let (change, s) := s.applyStage connection stage
    (.ok (.session change), s)
  | .issued query =>
    let (outcome, s) := s.applyIssued query
    (outcome.map .issued, s)
  | .result result =>
    let (outcome, s) := s.applyResult result
    (.ok (.result outcome), s)

/-! ### What people do -/

/-- Forgets everything but the settings and the number of the latest event. -/
def reset (s : Store) : Store := { settings := s.settings, lastNumber := s.lastNumber }

/-- Shows the newest record of a command in full or short, the other way than before. -/
def toggle (s : Store) (connection : ConnectionId) (command : CommandId) :
    Except Failure (Bool × Store) :=
  match s.newestKey? connection command with
  | none => .error (.queryNotFound connection command)
  | some key =>
    match s.record? key with
    | none => .error (.queryNotFound connection command)
    | some record =>
      .ok (!record.expanded, s.updateRecord key fun r ↦ { r with expanded := !r.expanded })

/-- Shows every record in full or short. -/
def expandAll (s : Store) (expanded : Bool) : Store :=
  { s with records := s.records.map fun _ r ↦ { r with expanded } }

end Store
end QueryWatch

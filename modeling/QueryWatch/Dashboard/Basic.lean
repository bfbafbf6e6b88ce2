import QueryWatch.Execution.Outcome
import QueryWatch.Feed.Steering
import QueryWatch.Filter
import QueryWatch.Settings.Basic
import QueryWatch.Store.Update
import QueryWatch.Telemetry.Decode

/-!
The dashboard: the history with what people look at in it. Telemetry changes the history and can
move the focus; everything else that is done here leaves what was observed as it is.
-/

set_option autoImplicit false

namespace QueryWatch

/-- The word for what an event did. -/
def EventEffect.name : EventEffect → String
  | session .unchanged => "session_updated"
  | session (.created _) => "session_created"
  | session (.reused _) => "session_reused"
  | issued outcome =>
    match outcome.entry with
    | .inserted => "query_inserted"
    | .insertedWithResult => "query_inserted_with_result"
    | .duplicate => "query_duplicate"
  | result .applied => "result_applied"
  | result .buffered => "result_buffered"
  | result .dropped => "result_dropped"

/-- Why a message had no outcome: it is not an event, or the history could not take it. -/
inductive MessageError
  | refused (refusal : Refusal)
  | failed (failure : Failure)
  deriving DecidableEq, Repr

def MessageError.report : MessageError → ErrorReport
  | refused refusal => refusal.report
  | failed failure => ⟨"internal_error", failure.message⟩

/-- The request to execute a query again. -/
def Query.request (q : Query) : ExecutionRequest := ⟨q.database, q.text, q.parameters⟩

structure Dashboard where
  store : Store
  focus : Focus
  filter : FilterInput
  executor : Executor := .disabled
  steering : FeedSteering := .idle
  connected : Bool := false
  expandAll : Bool
  lastExecution : Option Execution := none
  protocolErrors : Nat := 0
  unknownToggles : Nat := 0

/-- The filter that counts and the text that is to replace it. -/
structure FilterView where
  applied : String
  pending : Option String
  filtering : Bool
  deriving DecidableEq, Repr

namespace Dashboard

/-- A dashboard in which nothing happened yet. -/
def ofSettings (s : DashboardSettings) : Dashboard where
  store := .empty { expandByDefault := s.expandByDefault, orphanCapacity := s.orphanCapacity }
  focus := { policy := s.focusPolicy }
  filter := { delay := millis s.filterDelay }
  expandAll := s.expandByDefault

/-! ### The feed -/

/-- The feed is connected, or is not any more. -/
def setConnected (d : Dashboard) (connected : Bool) : Dashboard := { d with connected }

/-- Asks for the feed to be on. -/
def switchFeedOn (d : Dashboard) : Except Failure (Option FeedSwitch) := d.steering.switchingOn

/-- Asks for the feed to be off. -/
def switchFeedOff (d : Dashboard) : Except Failure (Option FeedSwitch) := d.steering.switchingOff

/-! ### Telemetry -/

/-- An event happened. If it opened a session, the focus may go there. -/
def apply (d : Dashboard) (e : Event) : Except Failure EventEffect × Dashboard :=
  let (outcome, store) := d.store.apply e
  let d := { d with store }
  match outcome with
  | .error failure => (.error failure, d)
  | .ok outcome =>
    match outcome.opened with
    | none => (.ok outcome, d)
    | some id => (.ok outcome, { d with focus := d.focus.opened id.connection })

/-- A message came that was decoded or refused. -/
def receive (d : Dashboard) (decoded : Except Refusal Event) :
    Except MessageError EventEffect × Dashboard :=
  match decoded with
  | .error refusal => (.error (.refused refusal), { d with protocolErrors := d.protocolErrors + 1 })
  | .ok e =>
    let (outcome, d) := d.apply e
    (outcome.mapError .failed, d)

/-- A message came as a text. -/
def receiveText (d : Dashboard) (raw : String) : Except MessageError EventEffect × Dashboard :=
  d.receive (Event.decodeText raw)

/-- A message came as a value. -/
def receiveValue (d : Dashboard) (j : Json) : Except MessageError EventEffect × Dashboard :=
  d.receive (Event.decode j)

/-! ### The filter -/

def filterChanged (d : Dashboard) (text : String) (now : Instant) : Dashboard :=
  { d with filter := d.filter.changed text now }

/-- Time goes on. Says whether the filter changed. -/
def tick (d : Dashboard) (now : Instant) : Bool × Dashboard :=
  let (changed, filter) := d.filter.commitDue now
  (changed, { d with filter })

/-- Commits the filter text that is pending. Says whether the filter changed. -/
def commitFilter (d : Dashboard) : Bool × Dashboard :=
  let (changed, filter) := d.filter.commit
  (changed, { d with filter })

def filterView (d : Dashboard) : FilterView :=
  ⟨d.filter.applied.text, d.filter.pending.map (·.text), d.filter.isWaiting⟩

/-! ### What people do -/

/-- Forgets the history and the focus. -/
def clear (d : Dashboard) : Dashboard := { d with store := d.store.reset, focus := d.focus.clear }

def select (d : Dashboard) (connection : ConnectionId) : Dashboard :=
  { d with focus := d.focus.choose connection }

/-- Shows all queries in full or short, the other way than before. -/
def toggleAll (d : Dashboard) : Bool × Dashboard :=
  let expanded := !d.expandAll
  (expanded, { d with expandAll := expanded, store := d.store.expandAll expanded })

/-- Shows the newest query of a command in full or short, the other way than before. -/
def toggle (d : Dashboard) (connection : ConnectionId) (command : CommandId) :
    Option Bool × Dashboard :=
  match d.store.toggle connection command with
  | .ok (expanded, store) => (some expanded, { d with store })
  | .error _ => (none, { d with unknownToggles := d.unknownToggles + 1 })

/-- The text of the newest query of a command. -/
def queryText? (d : Dashboard) (connection : ConnectionId) (command : CommandId) :
    Option String :=
  (d.store.newestRecord? connection command).map (·.query.text)

/-- Executes a query by asking for it, and keeps what came of it. -/
def executeBy {m : Type → Type} [Monad m] (ask : ExecutionRequest → m (Except Failure String))
    (d : Dashboard) (request : ExecutionRequest) (now : Timestamp) : m (Execution × Dashboard) := do
  let execution := Execution.ofResult request now (← ask request)
  return (execution, { d with lastExecution := some execution })

/-- Executes the newest query of a command again, by asking for it. -/
def executeRecordedBy {m : Type → Type} [Monad m]
    (ask : ExecutionRequest → m (Except Failure String)) (d : Dashboard)
    (connection : ConnectionId) (command : CommandId) (now : Timestamp) :
    m (Except Failure (Execution × Dashboard)) :=
  match d.store.newestRecord? connection command with
  | none => return .error (.queryNotFound connection command)
  | some record =>
    if record.query.executable then return .ok (← d.executeBy ask record.query.request now)
    else return .error (.notExecutable connection command)

/-- Executes a query and keeps what came of it. -/
def execute (d : Dashboard) (request : ExecutionRequest) (now : Timestamp) :
    Execution × Dashboard :=
  Id.run <| d.executeBy (fun r ↦ pure (d.executor r)) request now

/-- Executes the newest query of a command again. -/
def executeRecorded (d : Dashboard) (connection : ConnectionId) (command : CommandId)
    (now : Timestamp) : Except Failure (Execution × Dashboard) :=
  Id.run <| d.executeRecordedBy (fun r ↦ pure (d.executor r)) connection command now

end Dashboard
end QueryWatch

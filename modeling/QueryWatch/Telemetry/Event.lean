import QueryWatch.Json.Basic
import QueryWatch.Text.Blank

/-!
What is observed of a database proxy: a session starts or finishes, a query is issued, a query has
a result. An event is valid if it names its connection and, for a query, has a text; a valid event
is normalized before it counts (`Event.normalized`).
-/

set_option autoImplicit false

namespace QueryWatch

/-- The name the proxy gives to a connection. The proxy may use a name again later. -/
abbrev ConnectionId := String

/-- The number of a command, unique within its connection. -/
abbrev CommandId := UInt64

inductive SessionStage
  | started
  | finished
  deriving DecidableEq, Repr

inductive Verdict
  | ok
  | error
  deriving DecidableEq, Repr

/-- A query as it was issued. -/
structure Query where
  connection : ConnectionId
  command : CommandId
  database : Option String
  text : String
  parameters : List String
  executable : Bool
  deriving DecidableEq, Repr

/-- How a query ended. -/
structure QueryResult where
  connection : ConnectionId
  command : CommandId
  status : Verdict
  message : Option String
  millis : UInt64
  deriving DecidableEq, Repr

inductive Event
  | session (connection : ConnectionId) (stage : SessionStage)
  | issued (query : Query)
  | result (result : QueryResult)
  deriving DecidableEq, Repr

/-- The name of a stage. -/
def SessionStage.name : SessionStage → String
  | started => "started"
  | finished => "finished"

/-- The name of a status. -/
def Verdict.name : Verdict → String
  | ok => "ok"
  | error => "error"

/-- A result, with a message only if it is an error and the message says something. -/
def QueryResult.normalized (r : QueryResult) : QueryResult :=
  { r with
    connection := Text.trim r.connection
    message := match r.status with
      | .error => Text.unlessBlank r.message
      | .ok => none }

/-- A query, with a database only if its name says something. -/
def Query.normalized (q : Query) : Query :=
  { q with connection := Text.trim q.connection, database := Text.unlessBlank q.database }

namespace Event

/-- The connection an event is about. -/
def connection : Event → ConnectionId
  | session connection _ => connection
  | issued q => q.connection
  | result r => r.connection

/-- An event as it counts: the connection's name is trimmed, and texts that say nothing are
absent. -/
def normalized : Event → Event
  | session connection stage => session (Text.trim connection) stage
  | issued q => issued q.normalized
  | result r => result r.normalized

/-- A field that is left out when its text is absent. -/
def optionalField (name : String) : Option String → Json.Fields
  | some s => [(name, .string s)]
  | none => []

/-- The tagged form of an event, with its kind beside its fields. Absent texts and an empty list of
parameters are left out. -/
def toJson : Event → Json
  | session connection stage =>
    .object [("connection_id", .string connection), ("kind", .string "session_state"),
      ("state", .string stage.name)]
  | issued q =>
    .object ([("command_id", Json.nat q.command.toNat), ("connection_id", .string q.connection)] ++
      optionalField "database_name" q.database ++
      [("is_executable", .bool q.executable), ("kind", .string "query_issued")] ++
      (if q.parameters.isEmpty then [] else [("parameters", Json.strings q.parameters)]) ++
      [("query_text", .string q.text)])
  | result r =>
    .object ([("command_id", Json.nat r.command.toNat), ("connection_id", .string r.connection),
        ("duration_millis", Json.nat r.millis.toNat)] ++
      optionalField "error_message" r.message ++
      [("kind", .string "query_result"), ("status", .string r.status.name)])

end Event
end QueryWatch

import QueryWatch.Decimal.Literal
import QueryWatch.Json.Reader
import QueryWatch.Json.Record
import QueryWatch.Telemetry.Refusal

/-!
Decoding messages. An object with a kind is a tagged event. Any other object is one of the proxy's
own messages, told apart by the field it has: a query, else a result, else a state. Either way the
event is validated and normalized (`Event.decode`).
-/

set_option autoImplicit false

namespace QueryWatch

open Json (Read Member Fields Mismatch)

/-- Reads the fields of an object: `layout` checks those that are given. -/
def readFields {α : Type} (layout : Json.Layout) (fields : Fields)
    (build : Json.Given → Except Mismatch α) : Except Mismatch α :=
  match layout.check fields with
  | .error m => .error m
  | .ok () => build (.named fields)

/-! ### Tagged events -/

namespace Tagged

def connection : Member ConnectionId := .required "connection_id" Json.readString

def command : Member CommandId := .required "command_id" Json.readWord64

def state : Member SessionStage :=
  .required "state" (Json.readVariant [("started", .started), ("finished", .finished)])

def database : Member (Option String) :=
  .withDefault "database_name" (Json.readOptional Json.readString) none

def queryText : Member String := .required "query_text" Json.readString

def parameters : Member (List String) :=
  .withDefault "parameters" (Json.readList Json.readString) []

def executable : Member Bool := .withDefault "is_executable" Json.readBool false

def status : Member Verdict :=
  .required "status" (Json.readVariant [("ok", .ok), ("error", .error)])

def errorMessage : Member (Option String) :=
  .withDefault "error_message" (Json.readOptional Json.readString) none

def duration : Member UInt64 := .required "duration_millis" Json.readWord64

def sessionLayout : Json.Layout := ⟨"SessionState", [connection.rule, state.rule], false⟩

def issuedLayout : Json.Layout :=
  ⟨"QueryIssued", [connection.rule, command.rule, database.rule, queryText.rule, parameters.rule,
    executable.rule], false⟩

def resultLayout : Json.Layout :=
  ⟨"QueryResult", [connection.rule, command.rule, status.rule, errorMessage.rule, duration.rule],
    false⟩

/-- Reads an event of a known kind. -/
def read (kind : EventKind) (fields : Fields) : Except Mismatch Event :=
  match kind with
  | .sessionState => readFields sessionLayout fields fun g ↦ do
    let connection ← g.field sessionLayout 0 connection
    let stage ← g.field sessionLayout 1 state
    return .session connection stage
  | .queryIssued => readFields issuedLayout fields fun g ↦ do
    let connection ← g.field issuedLayout 0 connection
    let command ← g.field issuedLayout 1 command
    let database ← g.field issuedLayout 2 database
    let text ← g.field issuedLayout 3 queryText
    let parameters ← g.field issuedLayout 4 parameters
    let executable ← g.field issuedLayout 5 executable
    return .issued { connection, command, database, text, parameters, executable }
  | .queryResult => readFields resultLayout fields fun g ↦ do
    let connection ← g.field resultLayout 0 connection
    let command ← g.field resultLayout 1 command
    let status ← g.field resultLayout 2 status
    let message ← g.field resultLayout 3 errorMessage
    let millis ← g.field resultLayout 4 duration
    return .result { connection, command, status, message, millis }

/-- The kind of a name. -/
def kind? (name : String) : Option EventKind :=
  if name = "session_state" then some .sessionState
  else if name = "query_issued" then some .queryIssued
  else if name = "query_result" then some .queryResult
  else none

end Tagged

/-! ### Messages of the proxy -/

namespace Wire

/-- The byte for a session that has started. -/
def startedByte : UInt8 := 0xF4

/-- The byte for a session that has finished. -/
def finishedByte : UInt8 := 0xF5

/-- The byte for a failed command; every other one stands for success. -/
def errorByte : UInt8 := 0xFF

/-- A connection's name, which the proxy gives as a number or a text. -/
def readConnection : Read ConnectionId
  | .number (.whole i) =>
    if 0 ≤ i ∧ i < UInt64.size then .ok (toString i.toNat) else .error (.noVariant "WireId")
  | .string s => .ok (Text.trim s)
  | _ => .error (.noVariant "WireId")

/-- A duration, which the proxy gives as a number of seconds or a text for one. -/
inductive Duration
  | seconds (x : Decimal.Binary64)
  | text (s : String)
  deriving DecidableEq, Repr

def readDuration : Read Duration
  | .number (.real x) => .ok (.seconds x)
  | .number (.whole i) => .ok (.seconds ((Decimal.Binary64.ofInt i).getD (.zero false)))
  | .string s => .ok (.text s)
  | _ => .error (.noVariant "WireDuration")

def connection : Member ConnectionId := .required "ConnId" readConnection

def command : Member CommandId := .required "CmdId" Json.readWord64

def database : Member (Option String) :=
  .withDefault "Database" (Json.readOptional Json.readString) none

def query : Member String := .required "Query" Json.readString

def parameters : Member (Option (List String)) :=
  .withDefault "Parameters" (Json.readOptional (Json.readList Json.readString)) none

def executable : Member Bool := .withDefault "Executable" Json.readBool false

def result : Member UInt8 := .required "Result" Json.readWord8

def error : Member (Option String) :=
  .withDefault "Error" (Json.readOptional Json.readString) none

def duration : Member (Option Duration) :=
  .withDefault "Duration" (Json.readOptional readDuration) none

def state : Member UInt8 := .required "State" Json.readWord8

def queryLayout : Json.Layout :=
  ⟨"WireQuery", [connection.rule, command.rule, database.rule, query.rule, parameters.rule,
    executable.rule], false⟩

def resultLayout : Json.Layout :=
  ⟨"WireResult", [connection.rule, command.rule, result.rule, error.rule, duration.rule], false⟩

def stateLayout : Json.Layout := ⟨"WireState", [connection.rule, state.rule], false⟩

/-- The milliseconds of a number of seconds, to the nearest one and at most the largest number of
64 bits. -/
def millis (seconds : Decimal.Binary64) : Except Refusal UInt64 :=
  if seconds.isBelowZero then .error .durationRange
  else
    match (Decimal.Binary64.ofInt 1000).bind seconds.mul with
    | some x => .ok (min x.roundAbs (UInt64.size - 1)).toUInt64
    | none => .ok (UInt64.size - 1).toUInt64

/-- The milliseconds of a duration. -/
def Duration.millis : Duration → Except Refusal UInt64
  | seconds x => Wire.millis x
  | text s =>
    match Decimal.Literal.ofText? (Text.trim s) with
    | none => .error (.durationText s)
    | some (.finite x) => Wire.millis x
    | some _ => .error .durationRange

/-- The stage a byte stands for. -/
def stage (byte : UInt8) : Except Refusal SessionStage :=
  if byte = startedByte then .ok .started
  else if byte = finishedByte then .ok .finished
  else .error (.stateByte byte)

/-- The status a byte stands for. -/
def status (byte : UInt8) : Verdict := if byte = errorByte then .error else .ok

/-- The form of a message, told by the field it has. -/
def form? (fields : Fields) : Option WireForm :=
  if (fields.get? "Query").isSome then some .query
  else if (fields.get? "Result").isSome then some .result
  else if (fields.get? "State").isSome then some .state
  else none

/-- A mismatch in a message of a known form. -/
def within {α : Type} (form : WireForm) (r : Except Mismatch α) : Except Refusal α :=
  r.mapError (.malformedWire form)

/-- Reads a message of a known form. -/
def read (form : WireForm) (fields : Fields) : Except Refusal Event :=
  match form with
  | .query => within .query <| readFields queryLayout fields fun g ↦ do
    let connection ← g.field queryLayout 0 connection
    let command ← g.field queryLayout 1 command
    let database ← g.field queryLayout 2 database
    let text ← g.field queryLayout 3 query
    let parameters ← g.field queryLayout 4 parameters
    let executable ← g.field queryLayout 5 executable
    return .issued
      { connection, command, database, text, parameters := parameters.getD [], executable }
  | .result => do
    let (connection, command, byte, message, duration) ← within .result <|
      readFields resultLayout fields fun g ↦ do
        let connection ← g.field resultLayout 0 connection
        let command ← g.field resultLayout 1 command
        let byte ← g.field resultLayout 2 result
        let message ← g.field resultLayout 3 error
        let duration ← g.field resultLayout 4 duration
        return (connection, command, byte, message, duration)
    let millis ← match duration with
      | some d => d.millis
      | none => .ok 0
    return .result { connection, command, status := status byte, message, millis }
  | .state => do
    let (connection, byte) ← within .state <|
      readFields stateLayout fields fun g ↦ do
        let connection ← g.field stateLayout 0 connection
        let byte ← g.field stateLayout 1 state
        return (connection, byte)
    return .session connection (← stage byte)

end Wire

namespace Event

/-- The event an object stands for, before it is validated. -/
def ofFields (fields : Fields) : Except Refusal Event :=
  match fields.get? "kind" with
  | some kind =>
    let name := kind.asString?.getD ""
    match Tagged.kind? name with
    | none => .error (.unknownKind name)
    | some kind => (Tagged.read kind fields).mapError (.malformedTagged kind)
  | none =>
    match Wire.form? fields with
    | none => .error .formless
    | some form => Wire.read form fields

/-- The event a value stands for. -/
def decode (j : Json) : Except Refusal Event :=
  match j with
  | .object fields => do
    let event ← ofFields fields
    event.validate
    return event.normalized
  | _ => .error .notObject

/-- The event a text stands for. -/
def decodeText (raw : String) : Except Refusal Event :=
  match Json.ofText (Text.trim raw) with
  | .error e => .error (.notJson e)
  | .ok j => decode j

end Event
end QueryWatch

import QueryWatch.Execution.Request
import QueryWatch.Json.Record
import QueryWatch.Telemetry.Refusal

/-!
What the methods of the daemon are given. The parameters of a method are one JSON value, and are
refused when it is absent, is not of the method's type, or asks for a blank query to be executed.
-/

set_option autoImplicit false

namespace QueryWatch

open Json (Read Member)

/-- What can be asked of the daemon. -/
inductive Method
  | getHealth
  | event
  | getView
  | setFilter
  | selectSession
  | toggleExpand
  | toggleExpandAll
  | clear
  | connect
  | disconnect
  | execute
  | getQuery
  deriving DecidableEq, Repr

namespace Method

def name : Method → String
  | getHealth => "get_health"
  | event => "event"
  | getView => "get_view"
  | setFilter => "set_filter"
  | selectSession => "select_session"
  | toggleExpand => "toggle_expand"
  | toggleExpandAll => "toggle_expand_all"
  | clear => "clear"
  | connect => "connect"
  | disconnect => "disconnect"
  | execute => "execute"
  | getQuery => "get_query"

/-- All methods. -/
def all : List Method :=
  [getHealth, event, getView, setFilter, selectSession, toggleExpand, toggleExpandAll, clear,
    connect, disconnect, execute, getQuery]

/-- The methods by name. -/
def table : List (String × Method) := all.map fun m ↦ (m.name, m)

end Method

/-- Why parameters are refused. -/
inductive ParamsError
  | eventMissing
  | missing (method : Method)
  | mismatch (method : Method) (mismatch : Json.Mismatch)
  | queryBlank
  deriving DecidableEq, Repr

def ParamsError.message : ParamsError → String
  | eventMissing => "event payload is required"
  | missing method => method.name ++ " requires params"
  | mismatch method m => method.name ++ " params are invalid: " ++ m.message
  | queryBlank => "query_text is required"

def ParamsError.report (e : ParamsError) : ErrorReport := ⟨"invalid_params", e.message⟩

/-- A filter text, and whether it counts at once. -/
structure FilterChange where
  text : String
  immediate : Bool
  deriving DecidableEq, Repr

structure SessionChoice where
  connection : ConnectionId
  deriving DecidableEq, Repr

structure CommandAddress where
  connection : ConnectionId
  command : CommandId
  deriving DecidableEq, Repr

/-- What is to be executed: a recorded query, or one given with the request. -/
inductive ExecutionTarget
  | recorded (params : CommandAddress)
  | adHoc (request : ExecutionRequest)
  deriving DecidableEq, Repr

namespace Params

def text : Member String := .required "text" Json.readString

def immediate : Member Bool := .withDefault "immediate" Json.readBool false

def connection : Member ConnectionId := .required "connection_id" Json.readString

def command : Member CommandId := .required "command_id" Json.readWord64

def database : Member (Option String) :=
  .withDefault "database_name" (Json.readOptional Json.readString) none

def queryText : Member String := .required "query_text" Json.readString

def parameters : Member (List String) :=
  .withDefault "parameters" (Json.readList Json.readString) []

def filterLayout : Json.Layout := ⟨"FilterParams", [text.rule, immediate.rule], true⟩

def sessionLayout : Json.Layout := ⟨"SessionParams", [connection.rule], true⟩

def commandLayout : Json.Layout := ⟨"CommandParams", [connection.rule, command.rule], true⟩

def adHocLayout : Json.Layout :=
  ⟨"AdHocQueryParams", [database.rule, queryText.rule, parameters.rule], true⟩

def readFilter : Read FilterChange := fun j ↦ do
  let g ← filterLayout.given j
  let text ← g.field filterLayout 0 text
  let immediate ← g.field filterLayout 1 immediate
  g.finish filterLayout
  return { text, immediate }

def readSession : Read SessionChoice := fun j ↦ do
  let g ← sessionLayout.given j
  let connection ← g.field sessionLayout 0 connection
  g.finish sessionLayout
  return { connection }

def readCommand : Read CommandAddress := fun j ↦ do
  let g ← commandLayout.given j
  let connection ← g.field commandLayout 0 connection
  let command ← g.field commandLayout 1 command
  g.finish commandLayout
  return { connection, command }

def readAdHoc : Read ExecutionRequest := fun j ↦ do
  let g ← adHocLayout.given j
  let database ← g.field adHocLayout 0 database
  let text ← g.field adHocLayout 1 queryText
  let parameters ← g.field adHocLayout 2 parameters
  g.finish adHocLayout
  return { database, text, parameters }

/-- Reads the parameters of a method. -/
def parse {α : Type} (read : Read α) (method : Method) (params : Option Json) :
    Except ParamsError α :=
  match params with
  | none => .error (.missing method)
  | some j => (read j).mapError (.mismatch method)

/-- Reads what is to be executed. It is a recorded query if the parameters name a command. -/
def parseExecute (params : Option Json) : Except ParamsError ExecutionTarget :=
  match params.bind (·.get? "command_id") with
  | some _ => (parse readCommand .execute params).map .recorded
  | none =>
    match parse readAdHoc .execute params with
    | .error e => .error e
    | .ok request =>
      if Text.isBlankText request.text then .error .queryBlank else .ok (.adHoc request)

end Params
end QueryWatch

import QueryWatch.Json.Record
import QueryWatch.Time.Reading

/-!
What an operator's client knows of the daemon's view. It takes what it shows and passes over the
rest, and what is absent counts as empty, so that it can read the views of other versions.
-/

set_option autoImplicit false

namespace QueryWatch

open Json (Read Member)

structure SeenSession where
  connection : String := ""
  generation : Nat := 0
  queryCount : Nat := 0
  isLive : Bool := false
  isSelected : Bool := false
  visibleQueries : Nat := 0
  deriving DecidableEq, Repr

structure SeenQuery where
  command : UInt64 := 0
  database : Option String := none
  text : String := ""
  parameters : List String := []
  status : String := ""
  message : Option String := none
  millis : Option UInt64 := none
  expanded : Bool := false
  deriving DecidableEq, Repr

structure SeenFilter where
  applied : String := ""
  pending : Option String := none
  filtering : Bool := false
  deriving DecidableEq, Repr

structure SeenExecution where
  executedAt : Option Timestamp := none
  ok : Bool := false
  payload : String := ""
  deriving DecidableEq, Repr

structure SeenView where
  connected : Bool := false
  active : Option String := none
  sessions : List SeenSession := []
  queries : List SeenQuery := []
  filter : SeenFilter := {}
  recordCount : Nat := 0
  lastExecution : Option SeenExecution := none
  deriving DecidableEq, Repr

namespace Seen

/-- Reads a timestamp. -/
def readTime : Read Timestamp
  | .string s => (Timestamp.ofText s).mapError fun e ↦ .invalidTime e.message
  | j => .error (.wrongType j.found "an RFC 3339 formatted date and time string")

def text (name : String) : Member String := .withDefault name Json.readString ""

def optionalText (name : String) : Member (Option String) :=
  .withDefault name (Json.readOptional Json.readString) none

def flag (name : String) : Member Bool := .withDefault name Json.readBool false

def count (name : String) : Member Nat := .withDefault name Json.readSize 0

def generation : Member Nat := .withDefault "generation" Json.readWord32 0

def command : Member UInt64 := .withDefault "command_id" Json.readWord64 0

def parameters : Member (List String) :=
  .withDefault "parameters" (Json.readList Json.readString) []

def duration : Member (Option UInt64) :=
  .withDefault "duration_millis" (Json.readOptional Json.readWord64) none

def executedAt : Member (Option Timestamp) :=
  .withDefault "executed_at" (Json.readOptional readTime) none

def sessionLayout : Json.Layout :=
  ⟨"SessionRow", [(text "connection_id").rule, generation.rule, (count "query_count").rule,
    (flag "is_live").rule, (flag "is_selected").rule, (count "visible_queries").rule], false⟩

def readSession : Read SeenSession := fun j ↦ do
  let g ← sessionLayout.given j
  let connection ← g.field sessionLayout 0 (text "connection_id")
  let generation ← g.field sessionLayout 1 generation
  let queryCount ← g.field sessionLayout 2 (count "query_count")
  let isLive ← g.field sessionLayout 3 (flag "is_live")
  let isSelected ← g.field sessionLayout 4 (flag "is_selected")
  let visibleQueries ← g.field sessionLayout 5 (count "visible_queries")
  g.finish sessionLayout
  return { connection, generation, queryCount, isLive, isSelected, visibleQueries }

def queryLayout : Json.Layout :=
  ⟨"QueryRow", [command.rule, (optionalText "database_name").rule, (text "query_text").rule,
    parameters.rule, (text "status").rule, (optionalText "error_message").rule, duration.rule,
    (flag "expanded").rule], false⟩

def readQuery : Read SeenQuery := fun j ↦ do
  let g ← queryLayout.given j
  let command ← g.field queryLayout 0 command
  let database ← g.field queryLayout 1 (optionalText "database_name")
  let text' ← g.field queryLayout 2 (text "query_text")
  let parameters ← g.field queryLayout 3 parameters
  let status ← g.field queryLayout 4 (text "status")
  let message ← g.field queryLayout 5 (optionalText "error_message")
  let millis ← g.field queryLayout 6 duration
  let expanded ← g.field queryLayout 7 (flag "expanded")
  g.finish queryLayout
  return { command, database, text := text', parameters, status, message, millis, expanded }

def filterLayout : Json.Layout :=
  ⟨"FilterRow", [(text "applied").rule, (optionalText "pending").rule, (flag "filtering").rule],
    false⟩

def readFilter : Read SeenFilter := fun j ↦ do
  let g ← filterLayout.given j
  let applied ← g.field filterLayout 0 (text "applied")
  let pending ← g.field filterLayout 1 (optionalText "pending")
  let filtering ← g.field filterLayout 2 (flag "filtering")
  g.finish filterLayout
  return { applied, pending, filtering }

def executionLayout : Json.Layout :=
  ⟨"ExecutionRow", [executedAt.rule, (flag "ok").rule, (text "payload").rule], false⟩

def readExecution : Read SeenExecution := fun j ↦ do
  let g ← executionLayout.given j
  let executedAt ← g.field executionLayout 0 executedAt
  let ok ← g.field executionLayout 1 (flag "ok")
  let payload ← g.field executionLayout 2 (text "payload")
  g.finish executionLayout
  return { executedAt, ok, payload }

def sessions : Member (List SeenSession) := .withDefault "sessions" (Json.readList readSession) []

def queries : Member (List SeenQuery) := .withDefault "queries" (Json.readList readQuery) []

def filter : Member SeenFilter := .withDefault "filter" readFilter {}

def lastExecution : Member (Option SeenExecution) :=
  .withDefault "last_execution" (Json.readOptional readExecution) none

def viewLayout : Json.Layout :=
  ⟨"ViewSnapshot", [(flag "connected").rule, (optionalText "active_connection_id").rule,
    sessions.rule, queries.rule, filter.rule, (count "total_queries").rule, lastExecution.rule],
    false⟩

def readView : Read SeenView := fun j ↦ do
  let g ← viewLayout.given j
  let connected ← g.field viewLayout 0 (flag "connected")
  let active ← g.field viewLayout 1 (optionalText "active_connection_id")
  let sessions ← g.field viewLayout 2 sessions
  let queries ← g.field viewLayout 3 queries
  let filter ← g.field viewLayout 4 filter
  let recordCount ← g.field viewLayout 5 (count "total_queries")
  let lastExecution ← g.field viewLayout 6 lastExecution
  g.finish viewLayout
  return { connected, active, sessions, queries, filter, recordCount, lastExecution }

end Seen
end QueryWatch

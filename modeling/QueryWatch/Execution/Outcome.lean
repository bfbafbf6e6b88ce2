import QueryWatch.Execution.Request
import QueryWatch.Failure
import QueryWatch.Json.Basic
import QueryWatch.Time.Timestamp

/-!
Executing queries on request. What executes them is a function, and its result is kept for display
whether it is an answer or a failure.
-/

set_option autoImplicit false

namespace QueryWatch

/-- What executes queries. -/
abbrev Executor := ExecutionRequest → Except Failure String

/-- Stands in when nothing is set to execute queries. -/
def Executor.disabled : Executor := fun _ ↦ .error .executorUnavailable

/-- An execution that took place. The payload is the answer, or the text of the failure. -/
structure Execution where
  request : ExecutionRequest
  executedAt : Timestamp
  ok : Bool
  payload : String
  deriving DecidableEq, Repr

/-- The execution of a request that had a result. -/
def Execution.ofResult (request : ExecutionRequest) (executedAt : Timestamp) :
    Except Failure String → Execution
  | .ok payload => ⟨request, executedAt, true, payload⟩
  | .error failure => ⟨request, executedAt, false, failure.message⟩

def ExecutionRequest.toJson (r : ExecutionRequest) : Json :=
  .object [("database_name", Json.optString r.database), ("parameters", Json.strings r.parameters),
    ("query_text", .string r.text)]

def Execution.toJson (e : Execution) : Json :=
  .object [("executed_at", .string e.executedAt.text), ("ok", .bool e.ok),
    ("payload", .string e.payload), ("request", e.request.toJson)]

end QueryWatch

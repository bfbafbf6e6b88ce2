import QueryWatch.Telemetry.Refusal

/-!
Why something that was asked of the dashboard was not done.
-/

set_option autoImplicit false

namespace QueryWatch

inductive Failure
  | queryNotFound (connection : ConnectionId) (command : CommandId)
  | notExecutable (connection : ConnectionId) (command : CommandId)
  | executorUnavailable
  | executionFailed (details : String)
  | transport (details : String)
  | malformedSettings (path details : String)
  | io (context cause : String)
  | invariantViolated (details : String)
  deriving DecidableEq, Repr

namespace Failure

/-- The code that programs can rely on. -/
def code : Failure → String
  | queryNotFound _ _ => "query_not_found"
  | notExecutable _ _ => "not_executable"
  | executorUnavailable => "executor_unavailable"
  | executionFailed _ => "execution_failed"
  | transport _ => "transport_error"
  | malformedSettings _ _ => "config_malformed"
  | io _ _ => "io_error"
  | invariantViolated _ => "internal_error"

/-- A command in words. -/
def commandText (connection : ConnectionId) (command : CommandId) : String :=
  "connection " ++ connection ++ ", command " ++ toString command.toNat

def message : Failure → String
  | queryNotFound connection command => "Query not found: " ++ commandText connection command
  | notExecutable connection command =>
    "Query is not executable: " ++ commandText connection command
  | executorUnavailable => "Query execution is not configured"
  | executionFailed details => "Query execution failed: " ++ details
  | transport details => "Transport error: " ++ details
  | malformedSettings path details =>
    "Configuration file malformed: " ++ path ++ ": " ++ details
  | io context cause => "I/O error: " ++ context ++ ": " ++ cause
  | invariantViolated details => "Internal invariant violated: " ++ details

/-- A failure as it is reported. -/
def report (f : Failure) : ErrorReport := ⟨f.code, f.message⟩

end Failure
end QueryWatch

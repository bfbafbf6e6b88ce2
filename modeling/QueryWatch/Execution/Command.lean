import QueryWatch.Execution.Outcome
import QueryWatch.Host.Program
import QueryWatch.Json.Writer
import QueryWatch.Settings.Basic
import QueryWatch.Text.Blank
import QueryWatch.Time.Instant

/-!
Executing queries by a program. The program gets the query as its input, and the database and the
parameters in its environment; what it writes is the answer. It is looked at again and again, and
ended once it has taken too long.
-/

set_option autoImplicit false

namespace QueryWatch

/-- A program that executes queries, and how many milliseconds it may take. -/
structure Command where
  program : String
  args : List String
  timeout : Nat
  deriving DecidableEq, Repr

namespace Command

def databaseVariable : String := "SQLTAP_DATABASE"

def parametersVariable : String := "SQLTAP_PARAMETERS"

/-- How many nanoseconds pass from one look at the program to the next. -/
def pollInterval : Nat := millis 10

/-- The answer of a program that writes nothing. -/
def emptyAnswer : String := "Empty response"

/-- What the program is started with. -/
def launch (c : Command) (r : ExecutionRequest) : Launch where
  program := c.program
  args := c.args
  environment :=
    (parametersVariable, (Json.strings r.parameters).compact) ::
      (r.database.map fun d ↦ (databaseVariable, d)).toList
  input := Text.Utf8.encode r.text

/-- The time of the look at which a program that still runs is ended. -/
def lastLook (c : Command) : Nat :=
  (millis c.timeout + (pollInterval - 1)) / pollInterval * pollInterval

/-- A number of milliseconds in the largest unit that leaves a whole part. -/
def durationText (n : Nat) : String :=
  if n = 0 then "0ns"
  else if n < 1000 then toString n ++ "ms"
  else
    let fraction := (padded 3 (n % 1000)).toList.reverse.dropWhile (· = '0')
    toString (n / 1000) ++
      (if fraction.isEmpty then "" else "." ++ String.ofList fraction.reverse) ++ "s"

/-- What a program's run says: its output, or why it failed. -/
def answer (c : Command) (run : ProgramRun) : Except Failure String :=
  let output := Text.Utf8.decodeLossy run.output
  let errors := Text.trim (Text.Utf8.decodeLossy run.errors)
  if c.lastLook < run.nanos then
    .error (.executionFailed (c.program ++ " timed out after " ++ durationText c.timeout))
  else if run.status ≠ .success then
    .error <| .executionFailed <|
      if errors = "" then c.program ++ " exited with " ++ run.status.text else errors
  else if Text.isBlankText output then .ok emptyAnswer
  else .ok output

/-- Executes a query. -/
def execute (host : Host) (c : Command) : Executor := fun r ↦
  match host (c.launch r) with
  | .error e => .error (.io ("spawning " ++ c.program) e.message)
  | .ok run => c.answer run

end Command

/-- What executes queries on a host, as set. -/
def Executor.ofSettings (host : Host) (s : ExecutorSettings) : Executor :=
  match s.program with
  | none => .disabled
  | some program =>
    if Text.isBlankText program then .disabled
    else Command.execute host ⟨program, s.args, s.timeout⟩

end QueryWatch
